import Mathlib.Data.List.Induction
import Mathlib.Logic.Function.Iterate
import UmlSketch.Proofs.Draft.Lines

/-! # The numbering of a graph's nodes
In the graph of a list of lines the boxes are numbered in the order in which their record names are
first seen, each drawn from the first bracket with its name. The only other nodes are the junctions of
class diagrams, and every statement refers to nodes that are declared before it. The invariant
`Draft.Numbered` carries this from line to line; it is kept by declaring a bracket, adding an edge,
adding a port and adding a junction. -/

namespace UmlSketch

/-! ## The order of statements -/

/-- The identifiers of the nodes that a list of statements declares. -/
def declaredIds (statements : List Statement) : List NodeId :=
  (statements.filterMap Statement.node?).map Node.id

@[simp] theorem declaredIds_nil : declaredIds [] = [] := rfl

@[simp] theorem declaredIds_concat_node (statements : List Statement) (node : Node) :
    declaredIds (statements ++ [.node node]) = declaredIds statements ++ [node.id] := by
  simp [declaredIds, Statement.node?]

@[simp] theorem declaredIds_concat_edge (statements : List Statement) (edge : Edge) :
    declaredIds (statements ++ [.edge edge]) = declaredIds statements := by
  simp [declaredIds, Statement.node?]

/-- Whether a statement may stand after the declarations of some nodes: a node has an identifier of its
own, that of a box or, in a class diagram, of the junction of two boxes before it; an edge joins two of
the nodes. -/
def Statement.MayFollow (kind : Kind) (ids : List NodeId) : Statement → Prop
  | .node declared =>
    declared.id ∉ ids ∧
      (NodeId.IsBox declared.id ∨
        kind = .classes ∧ ∃ first second, declared.id = .junction (.box first) (.box second) ∧
          NodeId.box first ∈ ids ∧ NodeId.box second ∈ ids)
  | .edge declared => declared.source.node ∈ ids ∧ declared.target.node ∈ ids

/-- Whether each statement of a list may follow those before it. -/
def Orderly (kind : Kind) (statements : List Statement) : Prop :=
  ∀ before statement after, statements = before ++ statement :: after →
    statement.MayFollow kind (declaredIds before)

/-- There is nothing to follow in an empty list. -/
theorem orderly_nil (kind : Kind) : Orderly kind [] := by
  intro before statement after h
  simp at h

/-- A statement may be appended that may follow all others. -/
theorem Orderly.concat {kind : Kind} {statements : List Statement} {last : Statement}
    (h : Orderly kind statements) (hlast : last.MayFollow kind (declaredIds statements)) :
    Orderly kind (statements ++ [last]) := by
  intro before statement after heq
  -- The statement is the new one, or it stands among the others.
  rcases List.eq_nil_or_concat after with rfl | ⟨rest, final, rfl⟩
  · obtain ⟨rfl, hlasts⟩ := List.append_inj' heq rfl
    cases hlasts
    exact hlast
  · have hsplit : statements ++ [last] = (before ++ statement :: rest) ++ [final] := by
      simpa using heq
    exact h before statement rest (List.append_inj' hsplit rfl).1

/-- In an orderly list an edge ends at one of the nodes. -/
theorem Orderly.target_mem_declaredIds {kind : Kind} {statements : List Statement}
    (h : Orderly kind statements) {edge : Edge}
    (hedge : edge ∈ statements.filterMap Statement.edge?) :
    edge.target.node ∈ declaredIds statements := by
  obtain ⟨statement, hmem, hstatement⟩ := List.mem_filterMap.mp hedge
  cases statement with
  | node declared => cases hstatement
  | edge declared =>
    cases hstatement
    obtain ⟨before, after, rfl⟩ := List.append_of_mem hmem
    have htarget := (h before (.edge edge) after rfl).2
    rw [declaredIds, List.filterMap_append, List.map_append]
    exact List.mem_append_left _ htarget

/-- A change of the statements that leaves identifiers and ends of edges alone keeps the order. -/
theorem Orderly.map {kind : Kind} {statements : List Statement} {change : Statement → Statement}
    (h : Orderly kind statements)
    (hids : ∀ statements, declaredIds (statements.map change) = declaredIds statements)
    (hfollow : ∀ ids statement, statement.MayFollow kind ids → (change statement).MayFollow kind ids) :
    Orderly kind (statements.map change) := by
  intro before statement after heq
  obtain ⟨earlier, rest, rfl, rfl, hrest⟩ := List.map_eq_append_iff.mp heq
  obtain ⟨changed, later, rfl, rfl, -⟩ := List.map_eq_cons_iff.mp hrest
  rw [hids]
  exact hfollow _ _ (h earlier changed later rfl)

/-- In an orderly list no identifier is declared twice. -/
theorem Orderly.nodup_declaredIds {kind : Kind} {statements : List Statement}
    (h : Orderly kind statements) : (declaredIds statements).Nodup := by
  induction statements using List.reverseRecOn with
  | nil => exact List.nodup_nil
  | append_singleton rest last ih =>
    have hrest : Orderly kind rest := by
      intro before statement after heq
      exact h before statement (after ++ [last]) (by rw [heq]; simp)
    cases last with
    | node declared =>
      have hnew := (h rest (.node declared) [] rfl).1
      rw [declaredIds_concat_node, List.nodup_append]
      refine ⟨ih hrest, by simp, ?_⟩
      rintro id hid other hother rfl
      exact hnew (List.mem_singleton.mp hother ▸ hid)
    | edge declared =>
      rw [declaredIds_concat_edge]
      exact ih hrest

namespace Graph

/-- The identifiers of the nodes, in the order of their statements. -/
def ids (graph : Graph) : List NodeId := declaredIds graph.statements

/-- A graph contains a node if its identifier is declared. -/
theorem contains_iff {graph : Graph} {id : NodeId} : graph.contains id = true ↔ id ∈ graph.ids := by
  simp only [contains, List.any_eq_true, ids, declaredIds, List.mem_map, List.mem_filterMap]
  constructor
  · rintro ⟨statement, hmem, hdeclares⟩
    cases statement with
    | node declared =>
      exact ⟨declared, ⟨_, hmem, rfl⟩, by
        simpa [Statement.declares, Statement.node?] using hdeclares⟩
    | edge declared => simp [Statement.declares, Statement.node?] at hdeclares
  · rintro ⟨declared, ⟨statement, hmem, hnode⟩, rfl⟩
    exact ⟨statement, hmem, by simp [Statement.declares, hnode]⟩

/-- A node with a new identifier is appended. -/
theorem statements_addNode_of_not_mem {graph : Graph} {node : Node} (h : node.id ∉ graph.ids) :
    (graph.addNode node).statements = graph.statements ++ [.node node] := by
  rw [addNode, if_neg (by rw [contains_iff]; exact h)]

/-- The nodes after a node with a new identifier has been added. -/
theorem nodes_addNode_of_not_mem {graph : Graph} {node : Node} (h : node.id ∉ graph.ids) :
    (graph.addNode node).nodes = graph.nodes ++ [node] := by
  simp [nodes, statements_addNode_of_not_mem h, Statement.node?]

/-- A node adds its identifier, if that is new. -/
theorem mem_ids_addNode {graph : Graph} {node : Node} {id : NodeId} :
    id ∈ (graph.addNode node).ids ↔ id ∈ graph.ids ∨ id = node.id := by
  by_cases h : node.id ∈ graph.ids
  · rw [addNode_of_contains (contains_iff.mpr h)]
    exact ⟨Or.inl, fun hid => hid.elim (fun hid => hid) fun heq => heq ▸ h⟩
  · rw [ids, statements_addNode_of_not_mem h, declaredIds_concat_node]
    simp [ids]

@[simp] theorem ids_addEdge (graph : Graph) (edge : Edge) : (graph.addEdge edge).ids = graph.ids := by
  simp [ids]

/-- A new port changes the nodes under its identifier. -/
theorem filterMap_node?_addPort (id : NodeId) (statements : List Statement) :
    (statements.map fun statement =>
      if statement.declares id then statement.mapNode Node.addPort else statement).filterMap
        Statement.node? =
      (statements.filterMap Statement.node?).map fun node =>
        if node.id = id then node.addPort else node := by
  rw [List.filterMap_map, List.map_filterMap]
  congr 1
  funext statement
  cases statement with
  | node declared =>
    by_cases h : declared.id = id <;>
      simp [Statement.declares, Statement.node?, Statement.mapNode, h]
  | edge declared => simp [Statement.declares, Statement.node?]

/-- A new port changes no identifier. -/
theorem declaredIds_addPort (id : NodeId) (statements : List Statement) :
    declaredIds (statements.map fun statement =>
      if statement.declares id then statement.mapNode Node.addPort else statement) =
      declaredIds statements := by
  rw [declaredIds, filterMap_node?_addPort, List.map_map]
  refine List.map_congr_left fun node _ => ?_
  rw [Function.comp_apply]
  split
  · rfl
  · rfl

@[simp] theorem ids_addPort (graph : Graph) (id : NodeId) : (graph.addPort id).ids = graph.ids :=
  declaredIds_addPort id graph.statements

/-- The nodes after a port has been added. -/
theorem nodes_addPort (graph : Graph) (id : NodeId) :
    (graph.addPort id).nodes =
      graph.nodes.map fun node => if node.id = id then node.addPort else node :=
  filterMap_node?_addPort id graph.statements

/-- **The numbering of a graph** that is drawn from brackets. -/
structure WellNumbered (graph : Graph) (kind : Kind) (draw : NodeId → NodeExpr → Node)
    (brackets : List NodeExpr) : Prop where
  /-- No identifier is declared twice. -/
  nodup : graph.ids.Nodup
  /-- The boxes are numbered from zero on, one for each record name. -/
  boxes : graph.ids.filter NodeId.IsBox =
    (List.range (recordNames brackets).length).map NodeId.box
  /-- The box of a name is drawn from the first bracket with that name; it may have been given
  ports. -/
  drawn : ∀ number name, (recordNames brackets)[number]? = some name →
    ∃ bracket ports, firstNamed? brackets name = some bracket ∧
      Node.addPort^[ports] (draw (.box number) bracket) ∈ graph.nodes
  /-- Every other node is the junction of two boxes of a class diagram that are declared before it. -/
  junctions : ∀ before node after, graph.statements = before ++ .node node :: after →
    ¬ NodeId.IsBox node.id → kind = .classes ∧ ∃ first second,
      node.id = .junction (.box first) (.box second) ∧
        NodeId.box first ∈ declaredIds before ∧ NodeId.box second ∈ declaredIds before
  /-- Every edge joins two nodes that are declared before it. -/
  edges : ∀ before edge after, graph.statements = before ++ .edge edge :: after →
    edge.source.node ∈ declaredIds before ∧ edge.target.node ∈ declaredIds before

end Graph

/-! ## The invariant of a draft -/

/-- **The invariant of a draft** that has been made from some brackets. -/
structure Draft.Numbered (draft : Draft) (kind : Kind) (draw : Direction → NodeId → NodeExpr → Node)
    (direction : Direction) (seen : List NodeExpr) : Prop where
  /-- The direction is given. -/
  direction_eq : draft.graph.settings.direction = direction
  /-- The registry lists the record names. -/
  names : draft.registry.names = recordNames seen
  /-- The statements are in order. -/
  orderly : Orderly kind draft.graph.statements
  /-- The boxes are numbered. -/
  boxes : draft.graph.ids.filter NodeId.IsBox =
    (List.range (recordNames seen).length).map NodeId.box
  /-- The boxes are drawn from the brackets that come first with their names. -/
  drawn : ∀ number name, (recordNames seen)[number]? = some name →
    ∃ bracket ports, firstNamed? seen name = some bracket ∧
      Node.addPort^[ports] (draw direction (.box number) bracket) ∈ draft.graph.nodes

namespace Draft.Numbered

variable {draft : Draft} {kind : Kind} {draw : Direction → NodeId → NodeExpr → Node}
  {direction : Direction} {seen : List NodeExpr}

/-- A box is declared if its number counts one of the names. -/
theorem box_mem_ids (h : draft.Numbered kind draw direction seen) {number : Nat} :
    NodeId.box number ∈ draft.graph.ids ↔ number < (recordNames seen).length := by
  have hfilter : NodeId.box number ∈ draft.graph.ids.filter NodeId.IsBox ↔
      NodeId.box number ∈ draft.graph.ids := by
    simp
  rw [← hfilter, h.boxes, List.mem_map]
  constructor
  · rintro ⟨other, hother, heq⟩
    rw [NodeId.box_injective heq] at hother
    exact List.mem_range.mp hother
  · exact fun hlt => ⟨number, List.mem_range.mpr hlt, rfl⟩

/-- The identifier of a known bracket is declared. -/
theorem idIn_mem_ids (h : draft.Numbered kind draw direction seen) {bracket : NodeExpr}
    (hknown : draft.Knows bracket) : bracket.idIn draft.registry.names ∈ draft.graph.ids := by
  rw [NodeExpr.idIn, h.box_mem_ids, h.names]
  rw [Draft.Knows, h.names] at hknown
  exact List.idxOf_lt_length_of_mem hknown

/-- The empty draft has no brackets. -/
theorem empty (kind : Kind) (draw : Direction → NodeId → NodeExpr → Node) (settings : GraphSettings) :
    (Draft.empty settings).Numbered kind draw settings.direction [] where
  direction_eq := rfl
  names := rfl
  orderly := orderly_nil kind
  boxes := rfl
  drawn := by simp

/-- A bracket whose name is known changes nothing. -/
theorem concat_of_mem (h : draft.Numbered kind draw direction seen) {bracket : NodeExpr}
    (hmem : bracket.name ∈ recordNames seen) :
    draft.Numbered kind draw direction (seen ++ [bracket]) := by
  have hseen : recordNames (seen ++ [bracket]) = recordNames seen := by
    rw [recordNames_concat, if_pos hmem]
  refine ⟨h.direction_eq, ?_, h.orderly, ?_, ?_⟩
  · rw [hseen]
    exact h.names
  · rw [hseen]
    exact h.boxes
  · intro number name hname
    rw [hseen] at hname
    -- The bracket comes after the first one with its name.
    obtain ⟨first, ports, hfirst, hdrawn⟩ := h.drawn number name hname
    exact ⟨first, ports, by rw [firstNamed?_concat, hfirst]; rfl, hdrawn⟩

/-- A bracket whose name is new gets the next number. -/
theorem addBox (h : draft.Numbered kind draw direction seen) {bracket : NodeExpr}
    (hnew : bracket.name ∉ recordNames seen) {node : Node}
    (hnode : draw direction (.box (recordNames seen).length) bracket = node)
    (hid : node.id = .box (recordNames seen).length) :
    Draft.Numbered ⟨⟨draft.registry.names ++ [bracket.name]⟩, draft.graph.addNode node⟩ kind draw
      direction (seen ++ [bracket]) := by
  have hseen : recordNames (seen ++ [bracket]) = recordNames seen ++ [bracket.name] := by
    rw [recordNames_concat, if_neg hnew]
  have hfresh : node.id ∉ draft.graph.ids := by
    rw [hid, h.box_mem_ids]
    omega
  have hstatements := Graph.statements_addNode_of_not_mem hfresh
  refine ⟨?_, ?_, ?_, ?_, ?_⟩
  · rw [Graph.settings_addNode]
    exact h.direction_eq
  · rw [hseen, ← h.names]
  · rw [hstatements]
    exact h.orderly.concat ⟨hfresh, Or.inl ⟨_, hid⟩⟩
  · rw [Graph.ids, hstatements, declaredIds_concat_node, List.filter_append, ← Graph.ids, h.boxes,
      hseen, List.length_append, List.length_singleton, List.range_succ, List.map_append, hid]
    simp
  · intro number name hname
    rw [Graph.nodes_addNode_of_not_mem hfresh, firstNamed?_concat]
    rw [hseen, List.getElem?_append] at hname
    -- The name is one of those before, or it is the new one at the end.
    split at hname
    · obtain ⟨first, ports, hfirst, hmem⟩ := h.drawn number name hname
      exact ⟨first, ports, by rw [hfirst]; rfl, List.mem_append_left _ hmem⟩
    · obtain ⟨hzero, rfl⟩ := List.getElem?_eq_some_iff.mp hname
      have hnumber : number = (recordNames seen).length := by
        simp only [List.length_singleton] at hzero
        omega
      have hfirst : firstNamed? seen bracket.name = none := by
        rw [← Option.not_isSome_iff_eq_none, firstNamed?_isSome]
        exact hnew
      refine ⟨bracket, 0, ?_, ?_⟩
      · simp [hfirst]
      · rw [hnumber, Function.iterate_zero, id, hnode]
        exact List.mem_append_right _ List.mem_cons_self

/-- Declaring a bracket keeps the invariant: a known name changes nothing, and a new one gets the next
number. -/
theorem declare (h : draft.Numbered kind draw direction seen)
    (hdraw : ∀ direction id bracket, (draw direction id bracket).id = id) (bracket : NodeExpr) :
    (draft.declare draw bracket).Numbered kind draw direction (seen ++ [bracket]) := by
  by_cases hknown : draft.Knows bracket
  · rw [Draft.declare_of_knows draw hknown]
    rw [Draft.Knows, h.names] at hknown
    exact h.concat_of_mem hknown
  · have hsize : draft.registry.size = (recordNames seen).length := by
      rw [Registry.size, h.names]
    rw [Draft.declare_of_not_knows draw hknown, h.direction_eq, hsize]
    rw [Draft.Knows, h.names] at hknown
    exact h.addBox hknown rfl (hdraw _ _ _)

/-- Declaring the brackets of a line keeps the invariant. -/
theorem declareAll (h : draft.Numbered kind draw direction seen)
    (hdraw : ∀ direction id bracket, (draw direction id bracket).id = id) (exprs : List Expr) :
    (draft.declareAll draw exprs).Numbered kind draw direction (seen ++ Expr.nodes exprs) :=
  Draft.declareAll_induction (P := fun later seen => later.Numbered kind draw direction seen) draw
    (fun _ _ bracket hlater => hlater.declare hdraw bracket) h exprs

/-- An edge between declared nodes keeps the invariant. -/
theorem addEdge (h : draft.Numbered kind draw direction seen) {edge : Edge}
    (hsource : edge.source.node ∈ draft.graph.ids) (htarget : edge.target.node ∈ draft.graph.ids) :
    (draft.addEdge edge).Numbered kind draw direction seen where
  direction_eq := h.direction_eq
  names := h.names
  orderly := h.orderly.concat ⟨hsource, htarget⟩
  boxes := by
    rw [Draft.addEdge, Graph.ids_addEdge]
    exact h.boxes
  drawn := by
    intro number name hname
    obtain ⟨bracket, ports, hfirst, hmem⟩ := h.drawn number name hname
    have hnodes : (draft.addEdge edge).graph.nodes = draft.graph.nodes := by
      simp [Draft.addEdge, Graph.nodes, Statement.node?]
    exact ⟨bracket, ports, hfirst, by rw [hnodes]; exact hmem⟩

/-- A port keeps the invariant: its node is then drawn with one more. -/
theorem addPort (h : draft.Numbered kind draw direction seen) (id : NodeId) :
    ({ draft with graph := draft.graph.addPort id }).Numbered kind draw direction seen where
  direction_eq := h.direction_eq
  names := h.names
  orderly := by
    refine h.orderly.map (Graph.declaredIds_addPort id) fun ids statement hfollow => ?_
    split
    · cases statement <;> exact hfollow
    · exact hfollow
  boxes := by
    rw [Graph.ids_addPort]
    exact h.boxes
  drawn := by
    intro number name hname
    obtain ⟨bracket, ports, hfirst, hmem⟩ := h.drawn number name hname
    rw [Graph.nodes_addPort]
    -- The node that gets the port is drawn with one port more, and all others as before.
    by_cases hid : (Node.addPort^[ports] (draw direction (.box number) bracket)).id = id
    · refine ⟨bracket, ports + 1, hfirst, List.mem_map.mpr ⟨_, hmem, ?_⟩⟩
      rw [if_pos hid, Function.iterate_succ_apply']
    · exact ⟨bracket, ports, hfirst, List.mem_map.mpr ⟨_, hmem, if_neg hid⟩⟩

/-- The junction of two declared boxes keeps the invariant, whether it is new or not. -/
theorem addJunction (h : draft.Numbered .classes draw direction seen) {first second : Nat}
    (hfirst : NodeId.box first ∈ draft.graph.ids) (hsecond : NodeId.box second ∈ draft.graph.ids) :
    ({ draft with
        graph := draft.graph.addNode
          (Classes.junctionNode (.junction (.box first) (.box second))) }).Numbered
      .classes draw direction seen := by
  -- Only the identifier of the junction matters: it is not that of a box.
  generalize hnode : Classes.junctionNode (.junction (.box first) (.box second)) = node
  have hid : node.id = .junction (.box first) (.box second) := by rw [← hnode]; rfl
  by_cases hcontains : draft.graph.contains node.id = true
  · rw [Graph.addNode_of_contains hcontains]
    exact h
  · have hfresh : node.id ∉ draft.graph.ids := by rwa [Graph.contains_iff] at hcontains
    have hstatements := Graph.statements_addNode_of_not_mem hfresh
    refine ⟨?_, h.names, ?_, ?_, ?_⟩
    · rw [Graph.settings_addNode]
      exact h.direction_eq
    · rw [hstatements]
      exact h.orderly.concat ⟨hfresh, Or.inr ⟨rfl, first, second, hid, hfirst, hsecond⟩⟩
    · rw [Graph.ids, hstatements, declaredIds_concat_node, List.filter_append, ← Graph.ids, h.boxes,
        List.filter_cons_of_neg (by rw [hid]; simpa using NodeId.not_isBox_junction _ _)]
      simp
    · intro number name hname
      obtain ⟨bracket, ports, hbracket, hmem⟩ := h.drawn number name hname
      refine ⟨bracket, ports, hbracket, ?_⟩
      rw [Graph.nodes_addNode_of_not_mem hfresh]
      exact List.mem_append_left _ hmem

/-- A link between known brackets keeps the invariant. -/
theorem addLink (h : draft.Numbered kind draw direction seen) {source target : NodeExpr}
    (link : EdgeExpr) (hsource : draft.Knows source) (htarget : draft.Knows target) :
    (kind.addLink draft (source, link, target)).Numbered kind draw direction seen := by
  have hsourceId := h.idIn_mem_ids hsource
  have htargetId := h.idIn_mem_ids htarget
  rcases Kind.addLink_cases kind draft source link target with heq | ⟨node, -, -, -, heq⟩
  · rw [heq]
    exact h.addEdge hsourceId htargetId
  · rw [heq]
    refine (h.addPort _).addEdge ?_ ?_
    · rw [Graph.ids_addPort]
      exact hsourceId
    · rw [Graph.ids_addPort]
      exact htargetId

/-- A qualified association between known brackets keeps the invariant. -/
theorem addQualified (h : draft.Numbered .classes draw direction seen)
    {left right qualifier : NodeExpr} (link : EdgeExpr) (hleft : draft.Knows left)
    (hright : draft.Knows right) (hqualifier : draft.Knows qualifier) :
    (Kind.addQualified draft (left, link, right, qualifier)).Numbered
      .classes draw direction seen := by
  have hleftId := h.idIn_mem_ids hleft
  have hrightId := h.idIn_mem_ids hright
  have hqualifierId := h.idIn_mem_ids hqualifier
  generalize hbase : draft.graph.addNode (Classes.junctionNode (.junction
    (left.idIn draft.registry.names) (right.idIn draft.registry.names))) = base
  have hjunction : ({ draft with graph := base }).Numbered .classes draw direction seen := by
    rw [← hbase]
    exact h.addJunction hleftId hrightId
  -- The junction takes no identifier away, so the ends of the three edges are declared.
  have hgrown : ∀ id ∈ draft.graph.ids, id ∈ base.ids := by
    intro id hid
    rw [← hbase]
    exact Graph.mem_ids_addNode.mpr (Or.inl hid)
  have hmiddle : NodeId.junction (left.idIn draft.registry.names)
      (right.idIn draft.registry.names) ∈ base.ids := by
    rw [← hbase]
    exact Graph.mem_ids_addNode.mpr (Or.inr rfl)
  simp only [Kind.addQualified, hbase]
  refine ((hjunction.addEdge (hgrown _ hleftId) hmiddle).addEdge ?_ ?_).addEdge ?_ ?_
  · simpa [Draft.addEdge] using hmiddle
  · simpa [Draft.addEdge] using hgrown _ hrightId
  · simpa [Draft.addEdge] using hgrown _ hqualifierId
  · simpa [Draft.addEdge] using hmiddle

/-- **A line keeps the invariant.** -/
theorem addLine {dialect : GraphDialect} (hdialect : kind.graphDialect? = some dialect)
    (h : draft.Numbered kind dialect.draw direction seen) (exprs : List Expr) :
    (dialect.addLine draft exprs).Numbered kind dialect.draw direction
      (seen ++ Expr.nodes exprs) := by
  have hknown := Draft.knows_of_mem_line dialect.draw h.names exprs
  refine Kind.connect_induction
    (P := fun later => later.Numbered kind dialect.draw direction (seen ++ Expr.nodes exprs))
    hdialect hknown (h.declareAll (Kind.id_draw hdialect) exprs) ?_ ?_
  · rintro later hlater ⟨source, link, target⟩ hlink hnumbered
    obtain ⟨hsource, -, htarget⟩ := Expr.mem_of_mem_sandwiched hlink
    refine hnumbered.addLink link ?_ ?_
    · rw [Draft.Knows, hlater]
      exact hknown _ (Expr.mem_nodes.mpr hsource)
    · rw [Draft.Knows, hlater]
      exact hknown _ (Expr.mem_nodes.mpr htarget)
  · rintro ⟨left, link, right, qualifier⟩ hqualified
    obtain ⟨rfl, hline⟩ := Kind.eq_of_qualified? hqualified
    subst hline
    exact (h.declareAll (Kind.id_draw hdialect) _).addQualified link (hknown left (by simp))
      (hknown right (by simp)) (hknown qualifier (by simp))

/-- **All lines keep the invariant.** -/
theorem foldl_addLine {dialect : GraphDialect} (hdialect : kind.graphDialect? = some dialect)
    (h : draft.Numbered kind dialect.draw direction seen) (lines : List (List Expr)) :
    (lines.foldl dialect.addLine draft).Numbered kind dialect.draw direction
      (seen ++ Expr.brackets lines) := by
  induction lines generalizing draft seen with
  | nil => simpa using h
  | cons line rest ih =>
    have hrest := ih (h.addLine hdialect line)
    rw [List.append_assoc] at hrest
    exact hrest

end Draft.Numbered

/-! ## The graph of a document -/

/-- The graph of a numbered draft is numbered. -/
theorem Draft.Numbered.wellNumbered {draft : Draft} {kind : Kind}
    {draw : Direction → NodeId → NodeExpr → Node} {direction : Direction} {seen : List NodeExpr}
    (h : draft.Numbered kind draw direction seen) :
    draft.graph.WellNumbered kind (draw direction) seen where
  nodup := h.orderly.nodup_declaredIds
  boxes := h.boxes
  drawn := h.drawn
  junctions := fun before node after heq hbox =>
    (h.orderly before (.node node) after heq).2.resolve_left hbox
  edges := fun before edge after heq => h.orderly before (.edge edge) after heq

/-- **The graph of a list of lines is numbered**: if the lines compile to a graph, its boxes are
numbered by their record names in the order of the lines, its other nodes are junctions, and each
statement refers to nodes before it. -/
theorem Kind.wellNumbered_of_compileLines {kind : Kind} {direction : Direction}
    {lines : List SourceLine} {graph : Graph}
    (h : kind.compileLines direction lines = .ok (.graph graph)) :
    ∃ dialect read, kind.graphDialect? = some dialect ∧ lines.mapM kind.parseLine = .ok read ∧
      graph.WellNumbered kind (dialect.draw direction) (Expr.brackets read) := by
  obtain ⟨dialect, read, hdialect, hread, rfl⟩ := Kind.graph_of_compileLines h
  refine ⟨dialect, read, hdialect, hread, ?_⟩
  exact ((Draft.Numbered.empty kind dialect.draw ⟨dialect.rankSep, direction⟩).foldl_addLine
    hdialect read).wellNumbered

/-- Three classes and the junction of two of them: the junction takes no number, and a name that is
seen again no second box. -/
theorem Kind.wellNumbered_of_compileLines_junction :
    ∃ graph, Kind.compileLines .classes .topDown
        [⟨"[A]-[B][C]".toList, 0⟩, ⟨"[B|x]->[D]".toList, 11⟩] = .ok (.graph graph) ∧
      graph.ids.map String.ofList = ["A0", "A1", "A2", "A0JA1", "A3"] ∧
      ∃ dialect read, Kind.graphDialect? .classes = some dialect ∧
        List.mapM (Kind.parseLine .classes)
          [⟨"[A]-[B][C]".toList, 0⟩, ⟨"[B|x]->[D]".toList, 11⟩] = .ok read ∧
        graph.WellNumbered .classes (dialect.draw .topDown) (Expr.brackets read) := by
  have hids : (Kind.compileLines .classes .topDown
      [⟨"[A]-[B][C]".toList, 0⟩, ⟨"[B|x]->[D]".toList, 11⟩]).map
        (fun artifact => artifact.graph?.map fun graph => graph.ids.map String.ofList) =
      .ok (some ["A0", "A1", "A2", "A0JA1", "A3"]) := by decide +kernel
  obtain ⟨graph, hgraph, hids⟩ := Artifact.exists_of_map_graph? hids
  exact ⟨graph, hgraph, hids, Kind.wellNumbered_of_compileLines hgraph⟩

end UmlSketch
