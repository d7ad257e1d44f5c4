import Mathlib.Data.List.Induction
import UmlSketch.Proofs.Graph.Changes

/-! # Graphs with an index
A graph finds the node under an identifier by a search through its statements. An indexed graph keeps
the position of each node's statement instead, and takes what stands there without another look at its
identifier. The positions stay right, since statements are only appended and a port changes no
identifier. So both make the same of every list of changes
(`IndexedGraph.followsFrom_ofChanges`). -/

namespace UmlSketch

/-! ## Positions of nodes -/

/-- A statement declares an identifier if it declares a node with it. -/
theorem Statement.declares_iff {statement : Statement} {id : NodeId} :
    statement.declares id = true ↔ ∃ node, statement = .node node ∧ node.id = id := by
  cases statement <;> simp [declares, node?]

/-- A port changes no identifier. -/
theorem Statement.declares_mapNode_addPort (statement : Statement) (id : NodeId) :
    (statement.mapNode Node.addPort).declares id = statement.declares id := by
  cases statement <;> rfl

namespace Graph

variable {graph : Graph} {id : NodeId} {position : Nat}

/-- There is a position if there is a node. -/
theorem isSome_indexOf? (graph : Graph) (id : NodeId) :
    (graph.indexOf? id).isSome = graph.contains id := List.findIdx?_isSome

/-- The node under an identifier stands at the position of the identifier. -/
theorem node?_eq_bind (graph : Graph) (id : NodeId) :
    graph.node? id = (graph.indexOf? id).bind fun position =>
      graph.statements[position]?.bind Statement.node? := by
  rw [node?, nodes, indexOf?]
  induction graph.statements with
  | nil => rfl
  | cons statement rest ih =>
    rw [List.findIdx?_cons]
    split
    · rename_i hdeclares
      obtain ⟨node, rfl, hid⟩ := Statement.declares_iff.mp hdeclares
      simp [Statement.node?, hid]
    · rename_i hdeclares
      rw [Option.bind_map]
      refine Eq.trans ?_ ih
      cases statement with
      | node node =>
        have hid : node.id ≠ id := fun hid =>
          hdeclares (Statement.declares_iff.mpr ⟨node, rfl, hid⟩)
        simp [Statement.node?, hid]
      | edge edge => rfl

/-- If no identifier is declared twice, no two statements declare one. -/
theorem eq_of_declares (h : graph.ids.Nodup) {other : Nat} {first second : Statement}
    (hfirst : graph.statements[position]? = some first) (hid : first.declares id = true)
    (hsecond : graph.statements[other]? = some second) (hother : second.declares id = true) :
    position = other := by
  obtain ⟨node, rfl, rfl⟩ := Statement.declares_iff.mp hid
  obtain ⟨node', rfl, hsame⟩ := Statement.declares_iff.mp hother
  rw [ids, declaredIds, List.Nodup, List.pairwise_map, List.pairwise_filterMap,
    List.pairwise_iff_getElem] at h
  obtain ⟨hlt, hget⟩ := List.getElem?_eq_some_iff.mp hfirst
  obtain ⟨hlt', hget'⟩ := List.getElem?_eq_some_iff.mp hsecond
  -- Of two statements in order, the later one would repeat an identifier.
  rcases Nat.lt_trichotomy position other with hless | heq | hless
  · exact absurd hsame.symm (h position other hlt hlt' hless node (by rw [hget]; rfl) node'
      (by rw [hget']; rfl))
  · exact heq
  · exact absurd hsame (h other position hlt' hlt hless node' (by rw [hget']; rfl) node
      (by rw [hget]; rfl))

/-- The position of an identifier is that of the one statement that declares it. -/
theorem indexOf?_eq_some_iff (h : graph.ids.Nodup) :
    graph.indexOf? id = some position ↔
      ∃ node, graph.statements[position]? = some (.node node) ∧ node.id = id := by
  constructor
  · intro hindex
    obtain ⟨hlt, hdeclares, -⟩ := List.findIdx?_eq_some_iff_getElem.mp hindex
    obtain ⟨node, hnode, hid⟩ := Statement.declares_iff.mp hdeclares
    exact ⟨node, by rw [List.getElem?_eq_getElem hlt, hnode], hid⟩
  · rintro ⟨node, hnode, hid⟩
    have hdeclares : (Statement.node node).declares id = true :=
      Statement.declares_iff.mpr ⟨node, rfl, hid⟩
    obtain ⟨found, hfound⟩ : ∃ found, graph.indexOf? id = some found := by
      rw [← Option.isSome_iff_exists, isSome_indexOf?]
      exact List.any_eq_true.mpr ⟨_, List.mem_of_getElem? hnode, hdeclares⟩
    obtain ⟨hlt, hdeclares', -⟩ := List.findIdx?_eq_some_iff_getElem.mp hfound
    rw [hfound, eq_of_declares h (List.getElem?_eq_getElem hlt) hdeclares' hnode hdeclares]

/-- An edge that is appended leaves every position as it is. -/
theorem indexOf?_addEdge (graph : Graph) (edge : Edge) (id : NodeId) :
    (graph.addEdge edge).indexOf? id = graph.indexOf? id := by
  have hnone : [Statement.edge edge].findIdx? (Statement.declares id) = none := rfl
  rw [indexOf?, statements_addEdge, List.findIdx?_append, hnone, Option.map_none, Option.or_none,
    indexOf?]

/-- A node with a new identifier gets the position behind all statements. -/
theorem indexOf?_addNode {node : Node} (h : node.id ∉ graph.ids) (id : NodeId) :
    (graph.addNode node).indexOf? id =
      if node.id = id then some graph.statements.length else graph.indexOf? id := by
  rw [indexOf?, statements_addNode_of_not_mem h, List.findIdx?_append, ← indexOf?]
  split
  · rename_i hid
    have hnone : graph.indexOf? id = none := by
      rw [← Option.not_isSome_iff_eq_none, isSome_indexOf?, contains_iff, ← hid]
      exact h
    simp [hnone, Statement.declares, Statement.node?, hid]
  · rename_i hid
    simp [Statement.declares, Statement.node?, hid]

/-- A port leaves every position as it is. -/
theorem indexOf?_addPort (graph : Graph) (entered id : NodeId) :
    (graph.addPort entered).indexOf? id = graph.indexOf? id := by
  rw [indexOf?, addPort, List.findIdx?_map, indexOf?]
  congr 1
  funext statement
  rw [Function.comp_apply]
  split
  · exact Statement.declares_mapNode_addPort statement id
  · rfl

/-- Without a node under the identifier, a port is added to none. -/
theorem addPort_of_not_mem (h : id ∉ graph.ids) : graph.addPort id = graph := by
  have hnone : ∀ statement ∈ graph.statements, statement.declares id ≠ true := by
    intro statement hmem hdeclares
    exact h (contains_iff.mp (List.any_eq_true.mpr ⟨statement, hmem, hdeclares⟩))
  have hstatements : (graph.addPort id).statements = graph.statements := by
    rw [addPort, List.map_congr_left fun statement hmem => if_neg (hnone statement hmem),
      List.map_id']
  exact congrArg (fun statements => { graph with statements }) hstatements

/-- A port is added to the statement at the position of the identifier. -/
theorem statements_addPort (h : graph.ids.Nodup) (hindex : graph.indexOf? id = some position) :
    (graph.addPort id).statements =
      graph.statements.modify position (Statement.mapNode Node.addPort) := by
  obtain ⟨node, hnode, hid⟩ := (indexOf?_eq_some_iff h).mp hindex
  have hdeclares : (Statement.node node).declares id = true :=
    Statement.declares_iff.mpr ⟨node, rfl, hid⟩
  -- The two agree at each position, as only the one statement declares the identifier.
  refine List.ext_getElem? fun other => ?_
  rw [addPort, List.getElem?_map, List.getElem?_modify]
  cases hother : graph.statements[other]? with
  | none => rfl
  | some statement =>
    simp only [Option.map_some, Option.map_eq_map, Option.some.injEq]
    by_cases hposition : position = other
    · subst hposition
      obtain rfl := Option.some.inj (hnode.symm.trans hother)
      rw [if_pos hdeclares, if_pos rfl]
    · rw [if_neg hposition, if_neg fun hsame =>
        hposition (eq_of_declares h hnode hdeclares hother hsame)]

end Graph

/-! ## Indexed graphs -/

/-- Identifiers are hashed as strings. -/
instance : Hashable NodeId := ⟨fun id => hash (String.ofList id)⟩

/-- An **indexed graph**: a graph, and the positions of its nodes' statements by identifier. -/
structure IndexedGraph where
  /-- The graph. -/
  graph : Graph
  /-- The position of the statement that declares an identifier. -/
  index : Std.HashMap NodeId Nat := {}

namespace IndexedGraph

/-- Whether there is a node under an identifier. -/
def contains (indexed : IndexedGraph) (id : NodeId) : Bool := indexed.index.contains id

/-- The node under an identifier: what stands at its position. -/
def node? (indexed : IndexedGraph) (id : NodeId) : Option Node :=
  indexed.index[id]?.bind fun position =>
    indexed.graph.statements[position]?.bind Statement.node?

/-- Declares a node, unless its identifier is taken. -/
def addNode (indexed : IndexedGraph) (node : Node) : IndexedGraph :=
  if indexed.contains node.id then indexed
  else
    { graph := { indexed.graph with statements := indexed.graph.statements ++ [.node node] }
      index := indexed.index.insert node.id indexed.graph.statements.length }

/-- Declares an edge. -/
def addEdge (indexed : IndexedGraph) (edge : Edge) : IndexedGraph :=
  { indexed with graph := indexed.graph.addEdge edge }

/-- Adds a port to the node under an identifier, if there is one: to the node that stands at its
position. -/
def addPort (indexed : IndexedGraph) (id : NodeId) : IndexedGraph :=
  match indexed.index[id]? with
  | some position =>
    { indexed with
      graph := { indexed.graph with
        statements := indexed.graph.statements.modify position (Statement.mapNode Node.addPort) } }
  | none => indexed

/-- The indexed graph after a change. -/
def apply (indexed : IndexedGraph) : Graph.Change → IndexedGraph
  | .addNode node => indexed.addNode node
  | .addEdge edge => indexed.addEdge edge
  | .addPort id => indexed.addPort id

/-- The **indexed graph of some changes**, which are made to one without statements. -/
def ofChanges (settings : GraphSettings) (changes : List Graph.Change) : IndexedGraph :=
  changes.foldl apply { graph := { settings } }

/-- Whether the **index is right**: it leads to where a search leads, and it cannot lead anywhere else,
since no identifier is declared twice. -/
structure IsRight (indexed : IndexedGraph) : Prop where
  /-- The position of an identifier is the one that a search finds. -/
  index_eq : ∀ id, indexed.index[id]? = indexed.graph.indexOf? id
  /-- No identifier is declared twice. -/
  nodup : indexed.graph.ids.Nodup

namespace IsRight

variable {indexed : IndexedGraph}

/-- A right index has the identifiers of the nodes. -/
theorem contains_eq (h : indexed.IsRight) (id : NodeId) :
    indexed.contains id = indexed.graph.contains id := by
  rw [contains, Std.HashMap.contains_eq_isSome_getElem?, h.index_eq, Graph.isSome_indexOf?]

/-- A right index finds the nodes that a search finds. -/
theorem node?_eq (h : indexed.IsRight) (id : NodeId) :
    indexed.node? id = indexed.graph.node? id := by
  rw [node?, h.index_eq, Graph.node?_eq_bind]

/-- With a right index, a change is made to the graph as without. -/
theorem graph_apply (h : indexed.IsRight) (change : Graph.Change) :
    (indexed.apply change).graph = indexed.graph.apply change := by
  cases change with
  | addNode node =>
    rw [apply, addNode, h.contains_eq, Graph.apply, Graph.addNode]
    split <;> rfl
  | addEdge edge => rfl
  | addPort id =>
    rw [apply, addPort, h.index_eq, Graph.apply]
    cases hindex : indexed.graph.indexOf? id with
    | none =>
      refine (Graph.addPort_of_not_mem ?_).symm
      rw [← Graph.contains_iff, ← Graph.isSome_indexOf?, hindex]
      simp
    | some position =>
      have hstatements := Graph.statements_addPort h.nodup hindex
      exact congrArg (fun statements => { indexed.graph with statements }) hstatements.symm

/-- An index stays right along every change. -/
theorem apply (h : indexed.IsRight) (change : Graph.Change) : (indexed.apply change).IsRight where
  index_eq := by
    intro id
    rw [h.graph_apply]
    cases change with
    | addNode node =>
      rw [IndexedGraph.apply, addNode, h.contains_eq, Graph.apply]
      split
      · rename_i hcontains
        rw [Graph.addNode_of_contains hcontains, h.index_eq]
      · -- The new entry leads to where the node is appended; it hides no other.
        rename_i hcontains
        rw [Graph.indexOf?_addNode fun hmem => hcontains (Graph.contains_iff.mpr hmem),
          Std.HashMap.getElem?_insert, h.index_eq]
        simp only [beq_iff_eq]
    | addEdge edge =>
      rw [Graph.apply, Graph.indexOf?_addEdge]
      exact h.index_eq id
    | addPort entered =>
      have hindex : (indexed.addPort entered).index = indexed.index := by
        unfold addPort
        split <;> rfl
      rw [IndexedGraph.apply, hindex, Graph.apply, Graph.indexOf?_addPort]
      exact h.index_eq id
  nodup := by
    rw [h.graph_apply]
    exact Graph.nodup_ids_apply h.nodup change

end IsRight

/-- The index of some changes is right, and the graph is the one that is made without it. -/
theorem isRight_ofChanges (settings : GraphSettings) (changes : List Graph.Change) :
    (ofChanges settings changes).IsRight ∧
      (ofChanges settings changes).graph = Graph.ofChanges settings changes := by
  induction changes using List.reverseRecOn with
  | nil => exact ⟨⟨fun id => Std.HashMap.getElem?_empty, List.nodup_nil⟩, rfl⟩
  | append_singleton changes last ih =>
    have hlast : ofChanges settings (changes ++ [last]) = (ofChanges settings changes).apply last := by
      rw [ofChanges, List.foldl_append, List.foldl_cons, List.foldl_nil, ofChanges]
    rw [hlast, Graph.ofChanges_concat, ih.1.graph_apply, ih.2]
    exact ⟨ih.1.apply last, rfl⟩

/-- How an **indexed graph follows from the changes** that made it. -/
structure FollowsFrom (indexed : IndexedGraph) (settings : GraphSettings)
    (changes : List Graph.Change) : Prop where
  /-- The graph is the one that is made without an index, and the index finds in it what a search
  finds. -/
  searched : indexed.graph = Graph.ofChanges settings changes ∧
    ∀ id, indexed.index[id]? = indexed.graph.indexOf? id ∧
      indexed.contains id = indexed.graph.contains id ∧ indexed.node? id = indexed.graph.node? id
  /-- The index has the identifiers under which nodes have been declared, and no others. -/
  known : ∀ id, indexed.contains id = true ↔ id ∈ Graph.Change.ids changes
  /-- The position of an identifier is that of the one statement that declares a node under it. -/
  position : ∀ (id : NodeId) (position : Nat), indexed.index[id]? = some position ↔
    ∃ node, indexed.graph.statements[position]? = some (.node node) ∧ node.id = id
  /-- The node that is found there is the first one that has been declared under the identifier, with
  the ports that have been added since. -/
  node : ∀ id, indexed.node? id = Graph.Change.nodeUnder? id changes
  /-- The statements are the edges and the first nodes with their identifiers, in the order of the
  changes. -/
  statements : indexed.graph.statements = Graph.Change.statements changes
  /-- A node whose identifier is taken changes nothing. -/
  taken : ∀ node : Node, node.id ∈ Graph.Change.ids changes →
    indexed.addNode node = indexed ∧ indexed.graph.addNode node = indexed.graph
  /-- A port under an unknown identifier changes nothing. -/
  unknown : ∀ id, id ∉ Graph.Change.ids changes →
    indexed.addPort id = indexed ∧ indexed.graph.addPort id = indexed.graph

/-- **An indexed graph follows from the changes that made it**, whatever they are and however they are
interleaved. -/
theorem followsFrom_ofChanges (settings : GraphSettings) (changes : List Graph.Change) :
    (ofChanges settings changes).FollowsFrom settings changes := by
  obtain ⟨hright, hgraph⟩ := isRight_ofChanges settings changes
  have hids (id : NodeId) : id ∈ (ofChanges settings changes).graph.ids ↔
      id ∈ Graph.Change.ids changes := by
    rw [hgraph, Graph.mem_ids_ofChanges]
  have hknown (id : NodeId) : (ofChanges settings changes).contains id = true ↔
      id ∈ Graph.Change.ids changes := by
    rw [hright.contains_eq, Graph.contains_iff, hids]
  have hindex {id : NodeId} (hid : id ∉ Graph.Change.ids changes) :
      (ofChanges settings changes).index[id]? = none := by
    rw [← Option.not_isSome_iff_eq_none, ← Std.HashMap.contains_eq_isSome_getElem?]
    exact fun hcontains => hid ((hknown id).mp hcontains)
  exact {
    searched := ⟨hgraph, fun id => ⟨hright.index_eq id, hright.contains_eq id, hright.node?_eq id⟩⟩
    known := hknown
    position := fun id position => by
      rw [hright.index_eq, Graph.indexOf?_eq_some_iff hright.nodup]
    node := fun id => by rw [hright.node?_eq, hgraph, Graph.node?_ofChanges]
    statements := by rw [hgraph, Graph.statements_ofChanges]
    taken := fun node hnode => ⟨if_pos ((hknown node.id).mpr hnode),
      Graph.addNode_of_contains (Graph.contains_iff.mpr ((hids node.id).mpr hnode))⟩
    unknown := fun id hid => ⟨by rw [addPort, hindex hid],
      Graph.addPort_of_not_mem fun hmem => hid ((hids id).mp hmem)⟩ }

end IndexedGraph

end UmlSketch
