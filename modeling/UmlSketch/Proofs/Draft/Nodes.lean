import UmlSketch.Proofs.Draft.Numbering

/-! # Where the nodes of a graph come from
Every node of the graph of a list of lines is drawn from a bracket of one of the lines, or it is a
junction of a class diagram. Only in activity diagrams is a node changed afterwards, by the ports that
edges add to it; in all other diagrams it stays as it was drawn. -/

namespace UmlSketch

/-- Whether a node is drawn from one of some brackets, or is a junction of a class diagram. Only in an
activity diagram can it have been given ports. -/
def Node.IsDrawnFrom (node : Node) (kind : Kind) (draw : NodeId → NodeExpr → Node)
    (brackets : List NodeExpr) : Prop :=
  (∃ bracket ∈ brackets, ∃ id ports, node = Node.addPort^[ports] (draw id bracket) ∧
    (kind ≠ .activity → ports = 0)) ∨
  kind = .classes ∧ ∃ id, node = Classes.junctionNode id

/-- Ports change nothing but the label of a node. -/
theorem Node.exists_iterate_addPort_eq (node : Node) (ports : Nat) :
    ∃ label, Node.addPort^[ports] node = { node with label } := by
  induction ports with
  | zero => exact ⟨node.label, rfl⟩
  | succ ports ih =>
    obtain ⟨label, hlabel⟩ := ih
    refine ⟨({ node with label } : Node).addPort.label, ?_⟩
    rw [Function.iterate_succ_apply', hlabel]
    rfl

namespace Node.IsDrawnFrom

variable {node : Node} {kind : Kind} {draw : NodeId → NodeExpr → Node}
  {brackets more : List NodeExpr}

/-- A node that is drawn from some brackets is drawn from more of them. -/
theorem mono (h : node.IsDrawnFrom kind draw brackets) (hmore : brackets ⊆ more) :
    node.IsDrawnFrom kind draw more :=
  h.imp_left fun ⟨bracket, hbracket, hdrawn⟩ => ⟨bracket, hmore hbracket, hdrawn⟩

/-- A port that is added in an activity diagram leaves a node drawn. -/
theorem addPort (h : node.IsDrawnFrom .activity draw brackets) :
    node.addPort.IsDrawnFrom .activity draw brackets := by
  rcases h with ⟨bracket, hbracket, id, ports, rfl, -⟩ | ⟨hkind, -⟩
  · exact Or.inl ⟨bracket, hbracket, id, ports + 1, by rw [Function.iterate_succ_apply'],
      fun hkind => absurd rfl hkind⟩
  · cases hkind

/-- Outside of activity diagrams a node is as it was drawn. -/
theorem eq_draw (h : node.IsDrawnFrom kind draw brackets) (hkind : kind ≠ .activity) :
    (∃ bracket ∈ brackets, ∃ id, node = draw id bracket) ∨
      kind = .classes ∧ ∃ id, node = Classes.junctionNode id := by
  refine h.imp_left ?_
  rintro ⟨bracket, hbracket, id, ports, rfl, hports⟩
  rw [hports hkind]
  exact ⟨bracket, hbracket, id, rfl⟩

end Node.IsDrawnFrom

/-- A node of a graph that a node may have been added to is that node, or was there before. -/
theorem Graph.mem_nodes_addNode {graph : Graph} {node added : Node}
    (h : node ∈ (graph.addNode added).nodes) : node ∈ graph.nodes ∨ node = added := by
  unfold addNode at h
  split at h
  · exact Or.inl h
  · simpa [nodes, Statement.node?] using h

/-- An edge adds no node. -/
@[simp] theorem Graph.nodes_addEdge (graph : Graph) (edge : Edge) :
    (graph.addEdge edge).nodes = graph.nodes := by
  simp [nodes, Statement.node?]

/-! ## The invariant of a draft -/

/-- **The invariant of a draft** whose nodes are drawn from some brackets. -/
structure Draft.Drawn (draft : Draft) (kind : Kind) (draw : Direction → NodeId → NodeExpr → Node)
    (direction : Direction) (seen : List NodeExpr) : Prop where
  /-- The direction is given. -/
  direction_eq : draft.graph.settings.direction = direction
  /-- The registry lists the record names. -/
  names : draft.registry.names = recordNames seen
  /-- The nodes are drawn. -/
  isDrawnFrom : ∀ node ∈ draft.graph.nodes, node.IsDrawnFrom kind (draw direction) seen

namespace Draft.Drawn

variable {draft : Draft} {kind : Kind} {draw : Direction → NodeId → NodeExpr → Node}
  {direction : Direction} {seen : List NodeExpr}

/-- The empty draft has no nodes. -/
theorem empty (kind : Kind) (draw : Direction → NodeId → NodeExpr → Node) (settings : GraphSettings) :
    (Draft.empty settings).Drawn kind draw settings.direction [] where
  direction_eq := rfl
  names := rfl
  isDrawnFrom := by simp [Draft.empty, Graph.nodes]

/-- Declaring a bracket adds at most the node that is drawn from it. -/
theorem declare (h : draft.Drawn kind draw direction seen) (bracket : NodeExpr) :
    (draft.declare draw bracket).Drawn kind draw direction (seen ++ [bracket]) where
  direction_eq := by
    by_cases hknown : draft.Knows bracket
    · rw [Draft.declare_of_knows draw hknown, h.direction_eq]
    · rw [Draft.declare_of_not_knows draw hknown, Graph.settings_addNode, h.direction_eq]
  names := names_declare draw h.names bracket
  isDrawnFrom := by
    have hbefore : ∀ node ∈ draft.graph.nodes,
        node.IsDrawnFrom kind (draw direction) (seen ++ [bracket]) := fun node hnode =>
      (h.isDrawnFrom node hnode).mono (List.subset_append_left _ _)
    by_cases hknown : draft.Knows bracket
    · rw [Draft.declare_of_knows draw hknown]
      exact hbefore
    · rw [Draft.declare_of_not_knows draw hknown, h.direction_eq]
      intro node hnode
      rcases Graph.mem_nodes_addNode hnode with hnode | rfl
      · exact hbefore node hnode
      · exact Or.inl ⟨bracket, by simp, _, 0, rfl, fun _ => rfl⟩

/-- Declaring the brackets of a line draws nodes from them. -/
theorem declareAll (h : draft.Drawn kind draw direction seen) (exprs : List Expr) :
    (draft.declareAll draw exprs).Drawn kind draw direction (seen ++ Expr.nodes exprs) :=
  Draft.declareAll_induction (P := fun later seen => later.Drawn kind draw direction seen) draw
    (fun _ _ bracket hlater => hlater.declare bracket) h exprs

/-- An edge changes no node. -/
theorem addEdge (h : draft.Drawn kind draw direction seen) (edge : Edge) :
    (draft.addEdge edge).Drawn kind draw direction seen where
  direction_eq := h.direction_eq
  names := h.names
  isDrawnFrom := by
    rw [Draft.addEdge, Graph.nodes_addEdge]
    exact h.isDrawnFrom

/-- A port in an activity diagram leaves the nodes drawn. -/
theorem addPort (h : draft.Drawn .activity draw direction seen) (id : NodeId) :
    ({ draft with graph := draft.graph.addPort id }).Drawn .activity draw direction seen where
  direction_eq := h.direction_eq
  names := h.names
  isDrawnFrom := by
    intro node hnode
    rw [Graph.nodes_addPort] at hnode
    obtain ⟨before, hbefore, rfl⟩ := List.mem_map.mp hnode
    split
    · exact (h.isDrawnFrom before hbefore).addPort
    · exact h.isDrawnFrom before hbefore

/-- A junction of a class diagram may be added. -/
theorem addJunction (h : draft.Drawn .classes draw direction seen) (id : NodeId) :
    ({ draft with graph := draft.graph.addNode (Classes.junctionNode id) }).Drawn
      .classes draw direction seen where
  direction_eq := by rw [Graph.settings_addNode, h.direction_eq]
  names := h.names
  isDrawnFrom := by
    intro node hnode
    rcases Graph.mem_nodes_addNode hnode with hnode | rfl
    · exact h.isDrawnFrom node hnode
    · exact Or.inr ⟨rfl, id, rfl⟩

/-- A link leaves the nodes drawn. -/
theorem addLink (h : draft.Drawn kind draw direction seen)
    (link : NodeExpr × EdgeExpr × NodeExpr) :
    (kind.addLink draft link).Drawn kind draw direction seen := by
  obtain ⟨source, link, target⟩ := link
  rcases Kind.addLink_cases kind draft source link target with heq | ⟨node, rfl, -, -, heq⟩
  · rw [heq]
    exact h.addEdge _
  · rw [heq]
    exact (h.addPort _).addEdge _

/-- A qualified association adds its junction. -/
theorem addQualified (h : draft.Drawn .classes draw direction seen)
    (association : NodeExpr × EdgeExpr × NodeExpr × NodeExpr) :
    (Kind.addQualified draft association).Drawn .classes draw direction seen := by
  obtain ⟨left, link, right, qualifier⟩ := association
  exact (((h.addJunction _).addEdge _).addEdge _).addEdge _

/-- **A line draws nodes from its brackets.** -/
theorem addLine {dialect : GraphDialect} (hdialect : kind.graphDialect? = some dialect)
    (h : draft.Drawn kind dialect.draw direction seen) (exprs : List Expr) :
    (dialect.addLine draft exprs).Drawn kind dialect.draw direction (seen ++ Expr.nodes exprs) := by
  refine Kind.connect_induction
    (P := fun later => later.Drawn kind dialect.draw direction (seen ++ Expr.nodes exprs))
    hdialect (Draft.knows_of_mem_line dialect.draw h.names exprs) (h.declareAll exprs) ?_ ?_
  · exact fun later _ link _ hdrawn => hdrawn.addLink link
  · rintro ⟨left, link, right, qualifier⟩ hqualified
    obtain ⟨rfl, -⟩ := Kind.eq_of_qualified? hqualified
    exact (h.declareAll exprs).addQualified _

/-- **All lines draw nodes from their brackets.** -/
theorem foldl_addLine {dialect : GraphDialect} (hdialect : kind.graphDialect? = some dialect)
    (h : draft.Drawn kind dialect.draw direction seen) (lines : List (List Expr)) :
    (lines.foldl dialect.addLine draft).Drawn kind dialect.draw direction
      (seen ++ Expr.brackets lines) := by
  induction lines generalizing draft seen with
  | nil => simpa using h
  | cons line rest ih =>
    have hrest := ih (h.addLine hdialect line)
    rw [List.append_assoc] at hrest
    exact hrest

end Draft.Drawn

/-- The nodes of a graph that lines compile to are drawn from brackets of the lines. -/
theorem Kind.isDrawnFrom_of_compileLines {kind : Kind} {direction : Direction}
    {lines : List SourceLine} {graph : Graph}
    (h : kind.compileLines direction lines = .ok (.graph graph)) :
    ∃ dialect read, kind.graphDialect? = some dialect ∧ lines.mapM kind.parseLine = .ok read ∧
      ∀ node ∈ graph.nodes,
        node.IsDrawnFrom kind (dialect.draw direction) (Expr.brackets read) := by
  obtain ⟨dialect, read, hdialect, hread, rfl⟩ := Kind.graph_of_compileLines h
  refine ⟨dialect, read, hdialect, hread, ?_⟩
  exact ((Draft.Drawn.empty kind dialect.draw ⟨dialect.rankSep, direction⟩).foldl_addLine
    hdialect read).isDrawnFrom

end UmlSketch
