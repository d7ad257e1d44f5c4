import UmlSketch.Proofs.Draft.Lines

/-! # The edges of a graph
The edges of the graph of a list of lines are those that the lines stand for, in order: a qualified
association of a class diagram stands for the three edges at its junction, and every other line for one
edge per connector between two brackets. No connector is left out, since the names of a line are taken
up before its connectors are read. -/

namespace UmlSketch

/-! ## The edges a line stands for -/

namespace Expr

/-- The connector at a position of a line, with the brackets right before and after it. -/
def linkAt? (exprs : List Expr) (position : Nat) : Option (NodeExpr × EdgeExpr × NodeExpr) :=
  match exprs[position]?, exprs[position + 1]?, exprs[position + 2]? with
  | some (.node source), some (.edge link), some (.node target) => some (source, link, target)
  | _, _, _ => none

/-- The connectors of a line that stand directly between two brackets, from left to right. -/
def links (exprs : List Expr) : List (NodeExpr × EdgeExpr × NodeExpr) :=
  (List.range exprs.length).filterMap (linkAt? exprs)

/-- The connector at the start of a line comes first. -/
theorem links_cons (first : Expr) (rest : List Expr) :
    links (first :: rest) = (linkAt? (first :: rest) 0).toList ++ links rest := by
  rw [links, List.length_cons, List.range_succ_eq_map, List.filterMap_cons, List.filterMap_map]
  have hshift : linkAt? (first :: rest) ∘ Nat.succ = linkAt? rest := by
    funext position
    simp [linkAt?]
  rw [hshift]
  cases linkAt? (first :: rest) 0 <;> rfl

/-- Reading a line from the left finds each connector at its position. -/
theorem sandwiched_eq_links (exprs : List Expr) : sandwiched exprs = links exprs := by
  induction exprs with
  | nil => rfl
  | cons first rest ih =>
    rw [links_cons]
    unfold sandwiched
    split
    · rw [← ih]
      rfl
    · rename_i hother
      -- A line that does not start with a connector between two brackets has none at its start.
      have hnone : linkAt? (first :: rest) 0 = none := by
        unfold linkAt?
        split
        · rename_i source link target hsource hlink htarget
          cases hsource
          cases rest with
          | nil => simp at hlink
          | cons second more =>
            cases hlink
            cases more with
            | nil => simp at htarget
            | cons third others =>
              cases htarget
              exact (hother source link target others rfl rfl).elim
        · rfl
      rw [hnone, ih]
      rfl

end Expr

namespace Graph

@[simp] theorem edges_addEdge (graph : Graph) (edge : Edge) :
    (graph.addEdge edge).edges = graph.edges ++ [edge] := by
  simp [edges, Statement.edge?]

/-- A node adds no edge. -/
@[simp] theorem edges_addNode (graph : Graph) (node : Node) :
    (graph.addNode node).edges = graph.edges := by
  unfold addNode
  split
  · rfl
  · simp [edges, Statement.edge?]

/-- A port adds no edge. -/
@[simp] theorem edges_addPort (graph : Graph) (id : NodeId) :
    (graph.addPort id).edges = graph.edges := by
  unfold addPort edges
  rw [List.filterMap_map]
  congr 1
  funext statement
  rw [Function.comp_apply]
  split
  · cases statement <;> rfl
  · rfl

end Graph

namespace Kind

variable {kind : Kind} {dialect : GraphDialect} {draft : Draft} {seen : List NodeExpr}

/-- The edges that a line stands for, given the record names of the document. -/
def lineEdges (kind : Kind) (names : List Text) (exprs : List Expr) : List Edge :=
  match kind.qualified? exprs with
  | some (left, link, right, qualifier) =>
    Classes.qualifiedEdges link (left.idIn names) (right.idIn names) (qualifier.idIn names)
  | none =>
    (Expr.links exprs).map fun (source, link, target) => kind.edgeOf names source link target

/-- An edge without the port at which it enters a bar of an activity diagram. -/
def withoutPort : Kind → Edge → Edge
  | .activity, edge => { edge with target := { node := edge.target.node } }
  | _, edge => edge

/-- The edges of a draft, but for the ports of bars. -/
def edgesOf (kind : Kind) (draft : Draft) : List Edge := draft.graph.edges.map kind.withoutPort

/-- The edges of a line depend on the identifiers of its brackets alone. -/
theorem lineEdges_congr {names others : List Text} {exprs : List Expr}
    (h : ∀ bracket ∈ Expr.nodes exprs, bracket.idIn names = bracket.idIn others) :
    kind.lineEdges names exprs = kind.lineEdges others exprs := by
  unfold lineEdges
  split
  · rename_i left link right qualifier hqualified
    obtain ⟨-, rfl⟩ := eq_of_qualified? hqualified
    rw [h left (by simp), h right (by simp), h qualifier (by simp)]
  · refine List.map_congr_left ?_
    rintro ⟨source, link, target⟩ hlink
    rw [← Expr.sandwiched_eq_links] at hlink
    obtain ⟨hsource, -, htarget⟩ := Expr.mem_of_mem_sandwiched hlink
    simp only [edgeOf, h source (Expr.mem_nodes.mpr hsource), h target (Expr.mem_nodes.mpr htarget)]

/-! ## The edges a line adds -/

@[simp] theorem edgesOf_addEdge (kind : Kind) (draft : Draft) (edge : Edge) :
    kind.edgesOf (draft.addEdge edge) = kind.edgesOf draft ++ [kind.withoutPort edge] := by
  simp [edgesOf, Draft.addEdge]

/-- A node adds no edge. -/
theorem edgesOf_addNode (kind : Kind) (registry : Registry) (graph : Graph) (node : Node) :
    kind.edgesOf ⟨registry, graph.addNode node⟩ = kind.edgesOf ⟨registry, graph⟩ := by
  rw [edgesOf, edgesOf, Graph.edges_addNode]

/-- A port adds no edge. -/
theorem edgesOf_addPort (kind : Kind) (registry : Registry) (graph : Graph) (id : NodeId) :
    kind.edgesOf ⟨registry, graph.addPort id⟩ = kind.edgesOf ⟨registry, graph⟩ := by
  rw [edgesOf, edgesOf, Graph.edges_addPort]

/-- Declaring brackets adds no edge. -/
theorem edgesOf_declareAll (kind : Kind) (draw : Direction → NodeId → NodeExpr → Node)
    (draft : Draft) (exprs : List Expr) :
    kind.edgesOf (draft.declareAll draw exprs) = kind.edgesOf draft := by
  unfold Draft.declareAll
  induction Expr.nodes exprs generalizing draft with
  | nil => rfl
  | cons bracket rest ih =>
    rw [List.foldl_cons, ih]
    by_cases hknown : draft.Knows bracket
    · rw [Draft.declare_of_knows draw hknown]
    · rw [Draft.declare_of_not_knows draw hknown, edgesOf_addNode]
      rfl

/-- A link adds the edge of its connector. -/
theorem edgesOf_addLink (kind : Kind) (draft : Draft) (source : NodeExpr) (link : EdgeExpr)
    (target : NodeExpr) :
    kind.edgesOf (kind.addLink draft (source, link, target)) =
      kind.edgesOf draft ++ [kind.edgeOf draft.registry.names source link target] := by
  rcases addLink_cases kind draft source link target with heq | ⟨node, rfl, -, -, heq⟩
  · rw [heq, edgesOf_addEdge]
    cases kind <;> rfl
  · rw [heq, edgesOf_addEdge, edgesOf_addPort]
    rfl

/-- A qualified association adds the three edges at its junction. -/
theorem edgesOf_addQualified (draft : Draft) (left : NodeExpr) (link : EdgeExpr)
    (right qualifier : NodeExpr) :
    edgesOf .classes (addQualified draft (left, link, right, qualifier)) =
      edgesOf .classes draft ++
        Classes.qualifiedEdges link (left.idIn draft.registry.names)
          (right.idIn draft.registry.names) (qualifier.idIn draft.registry.names) := by
  unfold addQualified
  simp only [Classes.qualifiedEdges, List.foldl_cons, List.foldl_nil, edgesOf_addEdge,
    edgesOf_addNode, List.append_assoc, List.cons_append, List.nil_append]
  rfl

/-- The links of a line add their edges in order. -/
theorem edgesOf_foldl_addLink (kind : Kind) (draft : Draft)
    (links : List (NodeExpr × EdgeExpr × NodeExpr)) :
    kind.edgesOf (links.foldl kind.addLink draft) =
      kind.edgesOf draft ++ links.map fun (source, link, target) =>
        kind.edgeOf draft.registry.names source link target := by
  induction links generalizing draft with
  | nil => simp
  | cons link rest ih =>
    obtain ⟨source, link, target⟩ := link
    rw [List.foldl_cons, ih, edgesOf_addLink, registry_addLink, List.append_assoc, List.map_cons,
      List.singleton_append]

/-- **A line adds the edges it stands for.** -/
theorem edgesOf_addLine (hdialect : kind.graphDialect? = some dialect)
    (h : draft.registry.names = recordNames seen) (exprs : List Expr) :
    kind.edgesOf (dialect.addLine draft exprs) =
      kind.edgesOf draft ++ kind.lineEdges (recordNames (seen ++ Expr.nodes exprs)) exprs := by
  have hknown := Draft.knows_of_mem_line dialect.draw h exprs
  have hnames := Draft.names_declareAll dialect.draw h exprs
  rw [GraphDialect.addLine, connect_eq hdialect hknown, lineEdges]
  split
  · rename_i association hqualified
    obtain ⟨left, link, right, qualifier⟩ := association
    obtain ⟨rfl, -⟩ := eq_of_qualified? hqualified
    rw [edgesOf_addQualified, edgesOf_declareAll, hnames, hqualified]
  · rename_i hqualified
    rw [edgesOf_foldl_addLink, edgesOf_declareAll, hnames, hqualified, Expr.sandwiched_eq_links]

/-- The identifier of a bracket is the same among the names of a document as among those up to it. -/
theorem idIn_append {bracket : NodeExpr} (hmem : bracket ∈ seen) (more : List NodeExpr) :
    bracket.idIn (recordNames (seen ++ more)) = bracket.idIn (recordNames seen) := by
  have hname : bracket.name ∈ recordNames seen := mem_recordNames.mpr ⟨bracket, hmem, rfl⟩
  rw [NodeExpr.idIn, NodeExpr.idIn, idxOf_recordNames_append hname]

/-- **Lines add the edges they stand for**, in order. -/
theorem edgesOf_foldl_addLine (hdialect : kind.graphDialect? = some dialect)
    (h : draft.registry.names = recordNames seen) (lines : List (List Expr)) :
    kind.edgesOf (lines.foldl dialect.addLine draft) =
      kind.edgesOf draft ++
        lines.flatMap (kind.lineEdges (recordNames (seen ++ Expr.brackets lines))) := by
  induction lines generalizing draft seen with
  | nil => simp
  | cons line rest ih =>
    have hnames : (dialect.addLine draft line).registry.names =
        recordNames (seen ++ Expr.nodes line) :=
      GraphDialect.names_addLine hdialect h line
    have hbrackets : seen ++ Expr.brackets (line :: rest) =
        seen ++ Expr.nodes line ++ Expr.brackets rest := by
      rw [List.append_assoc]
      rfl
    -- The names of the lines below come later, so they do not move those of this line.
    have hline : kind.lineEdges (recordNames (seen ++ Expr.nodes line)) line =
        kind.lineEdges (recordNames (seen ++ Expr.brackets (line :: rest))) line := by
      refine lineEdges_congr fun bracket hbracket => ?_
      rw [hbrackets, idIn_append (List.mem_append_right _ hbracket)]
    rw [List.foldl_cons, ih hnames, edgesOf_addLine hdialect h, hline, ← hbrackets,
      List.append_assoc, List.flatMap_cons]

/-! ## The graph of a document -/

/-- Whether every bracket of a line has an identifier when the connectors of the line are read, so that
no connector and no qualified association is left out, whatever has been added to the graph since. -/
def LeavesNothingOut (dialect : GraphDialect) (declared : Draft) (line : List Expr) : Prop :=
  (dialect.connect declared line).registry = declared.registry ∧
    ∀ later : Draft, later.registry = declared.registry →
      (∀ bracket ∈ Expr.nodes line, (later.id? bracket).isSome) ∧
        ∀ link ∈ Expr.sandwiched line, (later.edgeBetween? link.1 link.2.1 link.2.2).isSome

/-- Once the brackets of a line are declared, nothing is left out. -/
theorem leavesNothingOut_declareAll (hdialect : kind.graphDialect? = some dialect)
    (h : draft.registry.names = recordNames seen) (line : List Expr) :
    LeavesNothingOut dialect (draft.declareAll dialect.draw line) line := by
  have hknown := Draft.knows_of_mem_line dialect.draw h line
  refine ⟨registry_connect hdialect hknown, fun later hlater => ?_⟩
  have hlaterKnown : ∀ bracket ∈ Expr.nodes line, later.Knows bracket := by
    intro bracket hbracket
    rw [Draft.Knows, hlater]
    exact hknown bracket hbracket
  refine ⟨fun bracket hbracket => ?_, ?_⟩
  · rw [Draft.id?_eq_some (hlaterKnown bracket hbracket)]
    rfl
  · rintro ⟨source, link, target⟩ hlink
    obtain ⟨hsource, -, htarget⟩ := Expr.mem_of_mem_sandwiched hlink
    rw [edgeBetween?_eq_some kind link (hlaterKnown _ (Expr.mem_nodes.mpr hsource))
      (hlaterKnown _ (Expr.mem_nodes.mpr htarget))]
    rfl

/-- **The edges of the graph of a list of lines** are those that its lines stand for, in order, and
none is left out for want of a name. -/
theorem edges_of_compileLines {direction : Direction} {lines : List SourceLine} {graph : Graph}
    (h : kind.compileLines direction lines = .ok (.graph graph)) :
    ∃ dialect read, kind.graphDialect? = some dialect ∧ lines.mapM kind.parseLine = .ok read ∧
      graph.edges.map kind.withoutPort =
        read.flatMap (kind.lineEdges (recordNames (Expr.brackets read))) ∧
      ∀ before line after, read = before ++ line :: after →
        LeavesNothingOut dialect
          ((before.foldl dialect.addLine (.empty ⟨dialect.rankSep, direction⟩)).declareAll
            dialect.draw line) line := by
  obtain ⟨dialect, read, hdialect, hread, rfl⟩ := graph_of_compileLines h
  refine ⟨dialect, read, hdialect, hread, ?_, fun before line after _ => ?_⟩
  · exact edgesOf_foldl_addLine hdialect (Draft.names_empty _) read
  · exact leavesNothingOut_declareAll hdialect
      (GraphDialect.names_foldl_addLine hdialect (Draft.names_empty _) before) line

/-- A qualified association, then a chain of two links, the second to a note. -/
theorem edges_of_compileLines_chain :
    ∃ graph, Kind.compileLines .classes .topDown
        [⟨"[A]-[B][C]".toList, 0⟩, ⟨"[B]-[A]-[note: x]".toList, 11⟩] = .ok (.graph graph) ∧
      graph.edges.map (fun edge =>
        (String.ofList edge.source.node, String.ofList edge.target.node, edge.line)) =
        [("A0", "A0JA1", .solid), ("A0JA1", "A1", .solid), ("A2", "A0JA1", .dashed),
          ("A1", "A0", .solid), ("A0", "A3", .dashed)] ∧
      ∃ dialect read, Kind.graphDialect? .classes = some dialect ∧
        List.mapM (Kind.parseLine .classes)
          [⟨"[A]-[B][C]".toList, 0⟩, ⟨"[B]-[A]-[note: x]".toList, 11⟩] = .ok read ∧
        graph.edges.map (Kind.withoutPort .classes) =
          read.flatMap (Kind.lineEdges .classes (recordNames (Expr.brackets read))) ∧
        ∀ before line after, read = before ++ line :: after →
          LeavesNothingOut dialect
            ((before.foldl dialect.addLine (.empty ⟨dialect.rankSep, .topDown⟩)).declareAll
              dialect.draw line) line := by
  have hends : (Kind.compileLines .classes .topDown
      [⟨"[A]-[B][C]".toList, 0⟩, ⟨"[B]-[A]-[note: x]".toList, 11⟩]).map
        (fun artifact => artifact.graph?.map fun graph => graph.edges.map fun edge =>
          (String.ofList edge.source.node, String.ofList edge.target.node, edge.line)) =
      .ok (some [("A0", "A0JA1", .solid), ("A0JA1", "A1", .solid), ("A2", "A0JA1", .dashed),
        ("A1", "A0", .solid), ("A0", "A3", .dashed)]) := by decide +kernel
  obtain ⟨graph, hgraph, hends⟩ := Artifact.exists_of_map_graph? hends
  exact ⟨graph, hgraph, hends, edges_of_compileLines hgraph⟩

end Kind

end UmlSketch
