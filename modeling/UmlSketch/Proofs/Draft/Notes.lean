import UmlSketch.Proofs.Draft.Ports

/-! # Edges at notes
In a class diagram an edge at a note is dashed and keeps its two nodes on one rank. Whether an edge is
drawn so is decided by the two brackets that its line has for it, and whether a node is a note by the
first bracket with its record name. As long as the two agree, all edges at notes are tied
(`Graph.ShowsNotes.tiesNotes_iff`). Where a line refers to a note by its bare name alone, the edges of
the line are drawn as if it were a class. -/

namespace UmlSketch

/-! ## Tied edges -/

/-- Whether an edge is **tied**: it is dashed and keeps its two nodes on one rank. -/
def Edge.IsTied (edge : Edge) : Prop := edge.line = .dashed ∧ edge.sameRank = true

instance : DecidablePred Edge.IsTied := fun _ => inferInstanceAs (Decidable (_ ∧ _))

namespace Graph

/-- Whether the node under an identifier is a note. -/
def HasNote (graph : Graph) (id : NodeId) : Prop :=
  ∃ node ∈ graph.nodes, node.id = id ∧ node.shape = .note

instance (graph : Graph) : DecidablePred graph.HasNote := fun id =>
  inferInstanceAs (Decidable (∃ node ∈ graph.nodes, node.id = id ∧ node.shape = .note))

/-- Whether an edge is tied if it has a note at one of its ends. -/
def TiesNotesOf (graph : Graph) (edge : Edge) : Prop :=
  graph.HasNote edge.source.node ∨ graph.HasNote edge.target.node → edge.IsTied

instance (graph : Graph) : DecidablePred graph.TiesNotesOf := fun edge =>
  inferInstanceAs (Decidable (_ ∨ _ → edge.IsTied))

/-- Whether a graph **ties its notes**: every edge with a note at one of its ends is tied. -/
def TiesNotes (graph : Graph) : Prop := ∀ edge ∈ graph.edges, graph.TiesNotesOf edge

instance : DecidablePred TiesNotes := fun graph =>
  inferInstanceAs (Decidable (∀ edge ∈ graph.edges, graph.TiesNotesOf edge))

end Graph

/-! ## Boxes and points -/

/-- Whether every node of a graph is a box or a point. -/
def Graph.HasBoxesAndPoints (graph : Graph) : Prop :=
  ∀ node ∈ graph.nodes, NodeId.IsBox node.id ∨ node.shape = .point

namespace Graph.HasBoxesAndPoints

variable {graph : Graph}

/-- A box or a point may be added. -/
theorem addNode (h : graph.HasBoxesAndPoints) {node : Node}
    (hnode : NodeId.IsBox node.id ∨ node.shape = .point) : (graph.addNode node).HasBoxesAndPoints := by
  intro other hother
  rcases Graph.mem_nodes_addNode hother with hother | rfl
  · exact h other hother
  · exact hnode

/-- An edge adds no node. -/
theorem addEdge (h : graph.HasBoxesAndPoints) (edge : Edge) :
    (graph.addEdge edge).HasBoxesAndPoints := by
  intro node hnode
  rw [Graph.nodes_addEdge] at hnode
  exact h node hnode

end Graph.HasBoxesAndPoints

namespace Classes

/-- A line of a class diagram adds boxes and points. -/
theorem hasBoxesAndPoints_addLine {draft : Draft} {seen : List NodeExpr}
    (hnames : draft.registry.names = recordNames seen) (h : draft.graph.HasBoxesAndPoints)
    (exprs : List Expr) : (dialect.addLine draft exprs).graph.HasBoxesAndPoints := by
  have hdialect : Kind.graphDialect? .classes = some dialect := rfl
  have hid := Kind.id_draw hdialect
  have hdeclared : (draft.declareAll dialect.draw exprs).graph.HasBoxesAndPoints := by
    refine List.foldlRecOn (motive := fun later : Draft => later.graph.HasBoxesAndPoints)
      (Expr.nodes exprs) _ h ?_
    intro later hlater bracket _
    by_cases hknown : later.Knows bracket
    · rw [Draft.declare_of_knows dialect.draw hknown]
      exact hlater
    · rw [Draft.declare_of_not_knows dialect.draw hknown]
      exact hlater.addNode (Or.inl (by rw [hid]; exact NodeId.isBox_box _))
  refine Kind.connect_induction (P := fun later => later.graph.HasBoxesAndPoints) hdialect
    (Draft.knows_of_mem_line dialect.draw hnames exprs) hdeclared ?_ ?_
  · intro later _ link _ hlater
    exact hlater.addEdge _
  · rintro ⟨left, link, right, qualifier⟩ -
    -- The junction is a point, and the three edges at it add no node.
    exact (((hdeclared.addNode (Or.inr rfl)).addEdge _).addEdge _).addEdge _

/-- **The nodes of a class diagram** are boxes and points. -/
theorem hasBoxesAndPoints_foldl_addLine {draft : Draft} {seen : List NodeExpr}
    (hnames : draft.registry.names = recordNames seen) (h : draft.graph.HasBoxesAndPoints)
    (lines : List (List Expr)) : (lines.foldl dialect.addLine draft).graph.HasBoxesAndPoints := by
  induction lines generalizing draft seen with
  | nil => exact h
  | cons line rest ih =>
    have hline := hasBoxesAndPoints_addLine hnames h line
    have hdialect : Kind.graphDialect? .classes = some dialect := rfl
    exact ih (GraphDialect.names_addLine hdialect hnames line) hline

/-- A bracket of a class diagram is drawn as a note exactly if it is one. -/
theorem shape_draw_eq_note_iff (direction : Direction) (id : NodeId) (bracket : NodeExpr) :
    (draw direction id bracket).shape = .note ↔ bracket.isNote = true := by
  unfold draw
  by_cases hnote : bracket.isNote = true
  · simp [hnote, Boxes.boxed]
  · simp [hnote, Boxes.boxed]

end Classes

/-! ## Notes and the brackets that declare them -/

namespace Graph.WellNumbered

variable {graph : Graph} {kind : Kind} {draw : NodeId → NodeExpr → Node} {brackets : List NodeExpr}

/-- The identifier of a bracket is that of a node. -/
theorem exists_node (h : graph.WellNumbered kind draw brackets) {bracket : NodeExpr}
    (hmem : bracket ∈ brackets) :
    ∃ node ∈ graph.nodes, node.id = bracket.idIn (recordNames brackets) := by
  have hname : bracket.name ∈ recordNames brackets := mem_recordNames.mpr ⟨bracket, hmem, rfl⟩
  have hbox : bracket.idIn (recordNames brackets) ∈ graph.ids.filter NodeId.IsBox := by
    rw [h.boxes]
    exact List.mem_map_of_mem (List.mem_range.mpr (List.idxOf_lt_length_of_mem hname))
  exact List.mem_map.mp (List.mem_of_mem_filter hbox)

/-- A box is drawn from the bracket that declares it, but for its label, to which ports may have been
added. -/
theorem exists_declares (h : graph.WellNumbered kind draw brackets)
    (hid : ∀ id bracket, (draw id bracket).id = id) {node : Node} (hnode : node ∈ graph.nodes)
    (hbox : NodeId.IsBox node.id) :
    ∃ bracket : NodeExpr, bracket.Declares brackets node.id ∧
      ∃ label, node = { draw node.id bracket with label } := by
  have hmem : node.id ∈ graph.ids.filter NodeId.IsBox :=
    List.mem_filter.mpr ⟨List.mem_map_of_mem hnode, decide_eq_true hbox⟩
  rw [h.boxes] at hmem
  obtain ⟨number, hnumber, heq⟩ := List.mem_map.mp hmem
  have hlt := List.mem_range.mp hnumber
  obtain ⟨bracket, ports, hfirst, hdrawn⟩ :=
    h.drawn number _ (List.getElem?_eq_getElem hlt)
  obtain ⟨label, hlabel⟩ := Node.exists_iterate_addPort_eq (draw (.box number) bracket) ports
  rw [hlabel, heq] at hdrawn
  -- No identifier is declared twice, so the node is the one that is drawn.
  have hdrawnEq : { draw node.id bracket with label } = node :=
    List.inj_on_of_nodup_map h.nodup hdrawn hnode (hid node.id bracket)
  have hname : bracket.name = (recordNames brackets)[number] := name_of_firstNamed? hfirst
  refine ⟨bracket, ⟨by rw [hname]; exact hfirst, ?_⟩, label, hdrawnEq.symm⟩
  rw [NodeExpr.idIn, hname, (nodup_recordNames brackets).idxOf_getElem number hlt, heq]

end Graph.WellNumbered

/-- **Which nodes of a class diagram are notes**, by the brackets that it is drawn from. -/
structure Graph.ShowsNotes (graph : Graph) (brackets : List NodeExpr) : Prop where
  /-- Every bracket has its node. -/
  exists_node : ∀ bracket ∈ brackets,
    ∃ node ∈ graph.nodes, node.id = bracket.idIn (recordNames brackets)
  /-- A node is a note exactly if the bracket that declares it is one. -/
  shape_eq_note_iff : ∀ node ∈ graph.nodes, node.shape = .note ↔
    ∃ bracket : NodeExpr, bracket.Declares brackets node.id ∧ bracket.isNote = true

/-- The nodes of a class diagram are notes where notes declare them. -/
theorem Classes.showsNotes_graphOf (direction : Direction) (lines : List (List Expr)) :
    (dialect.graphOf direction lines).ShowsNotes (Expr.brackets lines) := by
  have hdialect : Kind.graphDialect? .classes = some dialect := rfl
  have hid := Kind.id_draw hdialect
  have hnumbered : (dialect.graphOf direction lines).WellNumbered .classes (dialect.draw direction)
      (Expr.brackets lines) :=
    ((Draft.Numbered.empty .classes dialect.draw ⟨dialect.rankSep, direction⟩).foldl_addLine hdialect
      lines).wellNumbered
  have hboxes : (dialect.graphOf direction lines).HasBoxesAndPoints :=
    hasBoxesAndPoints_foldl_addLine (Draft.names_empty _)
      (fun node hnode => by cases hnode) lines
  refine ⟨fun bracket hmem => hnumbered.exists_node hmem, fun node hnode => ?_⟩
  -- A node with the shape that a bracket is drawn with is declared by that bracket.
  have hdeclared (hbox : NodeId.IsBox node.id) : ∃ bracket : NodeExpr,
      bracket.Declares (Expr.brackets lines) node.id ∧
        (node.shape = .note ↔ bracket.isNote = true) := by
    obtain ⟨bracket, hdeclares, label, heq⟩ :=
      hnumbered.exists_declares (hid direction) hnode hbox
    have hshape : node.shape = (draw direction node.id bracket).shape :=
      (congrArg Node.shape heq :)
    exact ⟨bracket, hdeclares, by rw [hshape, shape_draw_eq_note_iff]⟩
  constructor
  · intro hshape
    have hbox : NodeId.IsBox node.id := by
      rcases hboxes node hnode with hbox | hpoint
      · exact hbox
      · rw [hpoint] at hshape
        cases hshape
    obtain ⟨bracket, hdeclares, hiff⟩ := hdeclared hbox
    exact ⟨bracket, hdeclares, hiff.mp hshape⟩
  · rintro ⟨bracket, hdeclares, hnote⟩
    have hbox : NodeId.IsBox node.id := by
      rw [← hdeclares.2]
      exact NodeId.isBox_box _
    obtain ⟨other, hother, hiff⟩ := hdeclared hbox
    rw [hdeclares.unique hother] at hiff
    exact hiff.mpr hnote

/-! ## Links at notes -/

/-- Whether a bracket **stands for a note**: the first of some brackets with its record name is one. -/
def NodeExpr.StandsForNote (bracket : NodeExpr) (brackets : List NodeExpr) : Prop :=
  ∃ first, firstNamed? brackets bracket.name = some first ∧ first.isNote = true

/-- Whether a link at a note **writes a note**: one of its ends is written as a note if one of them stands
for a note. -/
def Expr.WritesNote (brackets : List NodeExpr) (link : NodeExpr × EdgeExpr × NodeExpr) : Prop :=
  link.1.StandsForNote brackets ∨ link.2.2.StandsForNote brackets →
    link.1.isNote = true ∨ link.2.2.isNote = true

/-- The edge of a link in a class diagram is tied exactly if one of its ends is written as a note. -/
theorem Kind.isTied_edgeOf_iff (names : List Text) (source : NodeExpr) (link : EdgeExpr)
    (target : NodeExpr) :
    (edgeOf .classes names source link target).IsTied ↔
      source.isNote = true ∨ target.isNote = true := by
  unfold Edge.IsTied edgeOf
  cases source.isNote <;> cases target.isNote <;> simp

/-- The ends of an association that a class qualifies are not written as notes. -/
theorem Kind.isNote_of_qualified? {kind : Kind} {left right qualifier : NodeExpr} {link : EdgeExpr}
    {exprs : List Expr} (h : kind.qualified? exprs = some (left, link, right, qualifier)) :
    left.isNote = false ∧ right.isNote = false := by
  obtain ⟨rfl, rfl⟩ := eq_of_qualified? h
  have hroles : left.role = .record ∧ right.role = .record ∧ qualifier.role = .record := by
    by_contra hroles
    simp [qualified?, Expr.qualified?, hroles] at h
  simp [NodeExpr.isNote, hroles]

namespace Graph.ShowsNotes

variable {graph : Graph} {brackets : List NodeExpr}

/-- The node of a bracket is a note exactly if the bracket stands for one. -/
theorem hasNote_idIn_iff (h : graph.ShowsNotes brackets) {bracket : NodeExpr}
    (hmem : bracket ∈ brackets) :
    graph.HasNote (bracket.idIn (recordNames brackets)) ↔ bracket.StandsForNote brackets := by
  constructor
  · rintro ⟨node, hnode, hid, hshape⟩
    obtain ⟨first, hdeclares, hnote⟩ := (h.shape_eq_note_iff node hnode).mp hshape
    rw [hid] at hdeclares
    exact ⟨first, (NodeExpr.declares_idIn_iff hmem).mp hdeclares, hnote⟩
  · rintro ⟨first, hfirst, hnote⟩
    have hdeclares := (NodeExpr.declares_idIn_iff hmem).mpr hfirst
    obtain ⟨node, hnode, hid⟩ := h.exists_node bracket hmem
    rw [← hid] at hdeclares
    exact ⟨node, hnode, hid, (h.shape_eq_note_iff node hnode).mpr ⟨first, hdeclares, hnote⟩⟩

/-- No note is a junction. -/
theorem not_hasNote_junction (h : graph.ShowsNotes brackets) (first second : NodeId) :
    ¬ graph.HasNote (.junction first second) := by
  rintro ⟨node, hnode, hid, hshape⟩
  obtain ⟨bracket, hdeclares, -⟩ := (h.shape_eq_note_iff node hnode).mp hshape
  apply NodeId.not_isBox_junction first second
  rw [← hid, ← hdeclares.2]
  exact NodeId.isBox_box _

/-- The edges of a line tie the notes exactly if each link of the line at a note writes one. -/
theorem tiesNotesOf_lineEdges_iff (h : graph.ShowsNotes brackets) {line : List Expr}
    (hline : ∀ bracket ∈ Expr.nodes line, bracket ∈ brackets) :
    (∀ edge ∈ Kind.lineEdges .classes (recordNames brackets) line, graph.TiesNotesOf edge) ↔
      ∀ link ∈ Expr.links line, Expr.WritesNote brackets link := by
  cases hqualified : Kind.qualified? .classes line with
  | none =>
    -- The edges are those of the links, one by one.
    simp only [Kind.lineEdges, hqualified, List.forall_mem_map]
    refine forall₂_congr fun link hlink => ?_
    obtain ⟨source, link, target⟩ := link
    rw [← Expr.sandwiched_eq_links] at hlink
    obtain ⟨hsource, -, htarget⟩ := Expr.mem_of_mem_sandwiched hlink
    have hsource := hline source (Expr.mem_nodes.mpr hsource)
    have htarget := hline target (Expr.mem_nodes.mpr htarget)
    rw [TiesNotesOf, Kind.isTied_edgeOf_iff, Expr.WritesNote, ← h.hasNote_idIn_iff hsource,
      ← h.hasNote_idIn_iff htarget]
    rfl
  | some association =>
    obtain ⟨left, link, right, qualifier⟩ := association
    obtain ⟨hleftNote, hrightNote⟩ := Kind.isNote_of_qualified? hqualified
    obtain ⟨-, rfl⟩ := Kind.eq_of_qualified? hqualified
    have hleft := h.hasNote_idIn_iff (hline left (by simp))
    have hright := h.hasNote_idIn_iff (hline right (by simp))
    have hjunction := h.not_hasNote_junction (left.idIn (recordNames brackets))
      (right.idIn (recordNames brackets))
    -- Only the edge of the class that qualifies the association is tied.
    have hlinks : Expr.links [.node left, .edge link, .node right, .node qualifier] =
        [(left, link, right)] := rfl
    simp only [Kind.lineEdges, hqualified, Classes.qualifiedEdges, hlinks, List.forall_mem_cons,
      TiesNotesOf, Edge.IsTied, Expr.WritesNote, hleftNote, hrightNote, ← hleft, ← hright, hjunction]
    simp

/-- **When a class diagram ties its notes**: exactly if each of its links at a note writes one. -/
theorem tiesNotes_iff {lines : List (List Expr)} (h : graph.ShowsNotes (Expr.brackets lines))
    (hedges : graph.edges =
      lines.flatMap (Kind.lineEdges .classes (recordNames (Expr.brackets lines)))) :
    graph.TiesNotes ↔
      ∀ link ∈ lines.flatMap Expr.links, Expr.WritesNote (Expr.brackets lines) link := by
  have hline : ∀ line ∈ lines, ∀ bracket ∈ Expr.nodes line, bracket ∈ Expr.brackets lines :=
    fun line hmem bracket hbracket => List.mem_flatMap.mpr ⟨line, hmem, hbracket⟩
  rw [TiesNotes, hedges, List.forall_mem_flatMap, List.forall_mem_flatMap]
  exact forall₂_congr fun line hmem => h.tiesNotesOf_lineEdges_iff (hline line hmem)

end Graph.ShowsNotes

/-! ## The notes of a document -/

/-- The edges of a class diagram are those that its lines stand for. -/
theorem Classes.edges_graphOf (direction : Direction) (lines : List (List Expr)) :
    (dialect.graphOf direction lines).edges =
      lines.flatMap (Kind.lineEdges .classes (recordNames (Expr.brackets lines))) := by
  have hedges : (dialect.graphOf direction lines).edges.map (Kind.withoutPort .classes) =
      lines.flatMap (Kind.lineEdges .classes (recordNames (Expr.brackets lines))) :=
    Kind.edgesOf_foldl_addLine (show Kind.graphDialect? .classes = some dialect from rfl)
      (Draft.names_empty ⟨dialect.rankSep, direction⟩) lines
  rw [← hedges]
  exact (List.map_id _).symm

/-- A link with an end that is written as a note is a tied edge. -/
theorem Classes.exists_isTied_of_isNote (names : List Text) {lines : List (List Expr)}
    {link : NodeExpr × EdgeExpr × NodeExpr} (hlink : link ∈ lines.flatMap Expr.links)
    (hnote : link.1.isNote = true ∨ link.2.2.isNote = true) :
    ∃ edge ∈ lines.flatMap (Kind.lineEdges .classes names),
      edge.source.node = link.1.idIn names ∧ edge.target.node = link.2.2.idIn names ∧
        edge.IsTied := by
  obtain ⟨line, hline, hmem⟩ := List.mem_flatMap.mp hlink
  -- The two ends of a qualified association are classes.
  have hqualified : Kind.qualified? .classes line = none := by
    cases hqualified : Kind.qualified? .classes line with
    | none => rfl
    | some association =>
      obtain ⟨left, connector, right, qualifier⟩ := association
      obtain ⟨hleft, hright⟩ := Kind.isNote_of_qualified? hqualified
      obtain ⟨-, rfl⟩ := Kind.eq_of_qualified? hqualified
      obtain rfl : link = (left, connector, right) := List.mem_singleton.mp hmem
      simp [hleft, hright] at hnote
  refine ⟨Kind.edgeOf .classes names link.1 link.2.1 link.2.2, List.mem_flatMap.mpr ⟨line, hline, ?_⟩,
    rfl, rfl, (Kind.isTied_edgeOf_iff names _ _ _).mpr hnote⟩
  rw [Kind.lineEdges, hqualified]
  exact List.mem_map_of_mem (f := fun link : NodeExpr × EdgeExpr × NodeExpr =>
    Kind.edgeOf .classes names link.1 link.2.1 link.2.2) hmem

/-- **Which edges at notes are tied**: if the lines of a class diagram compile to a graph, its notes are
the nodes that notes declare, and each link with an end that is written as a note is a tied edge. The
graph ties its notes exactly if every link that has an end with the name of a note writes a note. -/
theorem Kind.tiesNotes_iff_of_compileLines {direction : Direction} {lines : List SourceLine}
    {graph : Graph} (h : Kind.compileLines .classes direction lines = .ok (.graph graph)) :
    ∃ read, lines.mapM (Kind.parseLine .classes) = .ok read ∧
      graph.ShowsNotes (Expr.brackets read) ∧
      (∀ link ∈ read.flatMap Expr.links, link.1.isNote = true ∨ link.2.2.isNote = true →
        ∃ edge ∈ graph.edges, edge.source.node = link.1.idIn (recordNames (Expr.brackets read)) ∧
          edge.target.node = link.2.2.idIn (recordNames (Expr.brackets read)) ∧ edge.IsTied) ∧
      (graph.TiesNotes ↔
        ∀ link ∈ read.flatMap Expr.links, Expr.WritesNote (Expr.brackets read) link) := by
  obtain ⟨dialect, read, hdialect, hread, rfl⟩ := Kind.graph_of_compileLines h
  cases hdialect
  have hnotes := Classes.showsNotes_graphOf direction read
  have hedges := Classes.edges_graphOf direction read
  refine ⟨read, hread, hnotes, fun link hlink hnote => ?_, hnotes.tiesNotes_iff hedges⟩
  have hedge := Classes.exists_isTied_of_isNote (recordNames (Expr.brackets read)) hlink hnote
  rwa [← hedges] at hedge

/-- A note that is connected to two classes, each time as a note, and an association between classes
that a note's neighbour qualifies. -/
theorem Kind.tiesNotes_iff_of_compileLines_twice :
    let lines : List SourceLine :=
      [⟨"[A]->[note: x{bg:wheat}]".toList, 0⟩, ⟨"[note: x]-[B]".toList, 26⟩,
        ⟨"[A]-[B][C]".toList, 40⟩]
    ∃ graph, Kind.compileLines .classes .topDown lines = .ok (.graph graph) ∧
      graph.edges.map (fun edge => decide edge.IsTied) = [true, true, false, false, true] ∧
      graph.TiesNotes ∧
      ∃ read, lines.mapM (Kind.parseLine .classes) = .ok read ∧
        graph.ShowsNotes (Expr.brackets read) ∧
        (∀ link ∈ read.flatMap Expr.links, link.1.isNote = true ∨ link.2.2.isNote = true →
          ∃ edge ∈ graph.edges, edge.source.node = link.1.idIn (recordNames (Expr.brackets read)) ∧
            edge.target.node = link.2.2.idIn (recordNames (Expr.brackets read)) ∧ edge.IsTied) ∧
        (graph.TiesNotes ↔
          ∀ link ∈ read.flatMap Expr.links, Expr.WritesNote (Expr.brackets read) link) := by
  intro lines
  have hgraph : (Kind.compileLines .classes .topDown lines).map
      (fun artifact => artifact.graph?.map fun graph =>
        (graph.edges.map fun edge => decide edge.IsTied, decide graph.TiesNotes)) =
      .ok (some ([true, true, false, false, true], true)) := by decide +kernel
  obtain ⟨graph, hcompiled, hparts⟩ := Artifact.exists_of_map_graph? hgraph
  obtain ⟨htied, hties⟩ := Prod.mk.inj hparts
  exact ⟨graph, hcompiled, htied, of_decide_eq_true hties,
    Kind.tiesNotes_iff_of_compileLines hcompiled⟩

/-- **A note that a line refers to by its bare name**: the edge to it is drawn as one between two
classes. So is an association that a class qualifies. -/
theorem Kind.not_tiesNotes :
    (∃ graph, Kind.compileLines .classes .topDown
        [⟨"[note: hi]".toList, 0⟩, ⟨"[hi]-[B]".toList, 11⟩] = .ok (.graph graph) ∧
      ¬ graph.TiesNotes) ∧
    ∃ graph, Kind.compileLines .classes .topDown
        [⟨"[note: hi]".toList, 0⟩, ⟨"[hi]-[B][C]".toList, 11⟩] = .ok (.graph graph) ∧
      ¬ graph.TiesNotes := by
  have hplain : (Kind.compileLines .classes .topDown
      [⟨"[note: hi]".toList, 0⟩, ⟨"[hi]-[B]".toList, 11⟩]).map
        (fun artifact => artifact.graph?.map fun graph => decide graph.TiesNotes) =
      .ok (some false) := by decide +kernel
  have hqualified : (Kind.compileLines .classes .topDown
      [⟨"[note: hi]".toList, 0⟩, ⟨"[hi]-[B][C]".toList, 11⟩]).map
        (fun artifact => artifact.graph?.map fun graph => decide graph.TiesNotes) =
      .ok (some false) := by decide +kernel
  obtain ⟨graph, hgraph, hties⟩ := Artifact.exists_of_map_graph? hplain
  obtain ⟨other, hother, hotherTies⟩ := Artifact.exists_of_map_graph? hqualified
  exact ⟨⟨graph, hgraph, of_decide_eq_false hties⟩, other, hother, of_decide_eq_false hotherTies⟩

end UmlSketch
