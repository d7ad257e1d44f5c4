import UmlSketch.Proofs.Draft.Nodes

/-! # Changes of a graph
A graph is made by three changes: a node is declared, an edge is declared, or a node is given a port.
What a list of changes makes can be told without running them: the statements are the edges and those
nodes that are the first with their identifier, in the order of the changes, and each node has a port for
every change behind it that adds one (`Graph.statements_ofChanges`). -/

namespace UmlSketch

namespace Graph

/-- A **change** of a graph. -/
inductive Change
  /-- Declares a node, unless its identifier is taken. -/
  | addNode (node : Node)
  /-- Declares an edge. -/
  | addEdge (edge : Edge)
  /-- Adds a port to the node under an identifier, if there is one. -/
  | addPort (id : NodeId)
  deriving DecidableEq, Repr

/-- The graph after a change. -/
def apply (graph : Graph) : Change → Graph
  | .addNode node => graph.addNode node
  | .addEdge edge => graph.addEdge edge
  | .addPort id => graph.addPort id

/-- The **graph of some changes**: they are made one after the other, to a graph without statements. -/
def ofChanges (settings : GraphSettings) (changes : List Change) : Graph :=
  changes.foldl apply { settings }

namespace Change

/-- The node that a change declares, or would declare if its identifier were not taken. -/
def node? : Change → Option Node
  | .addNode node => some node
  | .addEdge _ => none
  | .addPort _ => none

/-- The identifiers under which some changes declare nodes. -/
def ids (changes : List Change) : List NodeId := (changes.filterMap node?).map Node.id

/-- The statement that a change makes, between the changes before it and behind it. A node makes one if
its identifier is new; it has the ports that are added to it later. -/
def statement? (earlier later : List Change) : Change → Option Statement
  | .addNode node =>
    if node.id ∈ ids earlier then none
    else some (.node (Node.addPort^[later.count (.addPort node.id)] node))
  | .addEdge edge => some (.edge edge)
  | .addPort _ => none

/-- The statements that some changes make behind others. -/
def statementsFrom (earlier : List Change) : List Change → List Statement
  | [] => []
  | change :: later =>
    (change.statement? earlier later).toList ++ statementsFrom (earlier ++ [change]) later

/-- The **statements that some changes make**, in the order of the changes. -/
def statements (changes : List Change) : List Statement := statementsFrom [] changes

/-- The **node under an identifier** after some changes: the first one that is declared under it, with a
port for each change behind it that adds one. -/
def nodeUnder? (id : NodeId) : List Change → Option Node
  | [] => none
  | .addNode node :: later =>
    if node.id = id then some (Node.addPort^[later.count (.addPort id)] node) else nodeUnder? id later
  | .addEdge _ :: later => nodeUnder? id later
  | .addPort _ :: later => nodeUnder? id later

/-- What a change makes of a statement that is already there. -/
def revise : Change → Statement → Statement
  | .addPort id, statement =>
    if statement.declares id then statement.mapNode Node.addPort else statement
  | _, statement => statement

/-! ## One more change -/

/-- Ports leave a node its identifier. -/
theorem id_iterate_addPort (count : Nat) (node : Node) :
    (Node.addPort^[count] node).id = node.id := by
  obtain ⟨label, hlabel⟩ := Node.exists_iterate_addPort_eq node count
  rw [hlabel]

/-- Only the declaration of a node adds an identifier. -/
theorem mem_ids_concat {changes : List Change} {last : Change} {id : NodeId} :
    id ∈ ids (changes ++ [last]) ↔
      id ∈ ids changes ∨ ∃ node, last = .addNode node ∧ node.id = id := by
  cases last <;> simp [ids, node?, eq_comm]

/-- A further change revises the statement that a change makes. -/
theorem statement?_concat (earlier later : List Change) (last change : Change) :
    change.statement? earlier (later ++ [last]) =
      (change.statement? earlier later).map last.revise := by
  cases change with
  | addNode node =>
    rw [statement?, statement?]
    split
    · rfl
    · rw [List.count_append, Option.map_some]
      cases last with
      | addNode other => simp [revise]
      | addEdge edge => simp [revise]
      | addPort id =>
        by_cases h : id = node.id
        · rw [h, List.count_singleton_self, Function.iterate_succ_apply']
          simp [revise, Statement.declares, Statement.node?, Statement.mapNode, id_iterate_addPort]
        · simp [revise, Statement.declares, Statement.node?, id_iterate_addPort, h, Ne.symm h]
  | addEdge edge => cases last <;> rfl
  | addPort id => rfl

/-- A further change revises the statements and may make one of its own. -/
theorem statementsFrom_concat (earlier changes : List Change) (last : Change) :
    statementsFrom earlier (changes ++ [last]) =
      (statementsFrom earlier changes).map last.revise ++
        (last.statement? (earlier ++ changes) []).toList := by
  induction changes generalizing earlier with
  | nil => simp [statementsFrom]
  | cons change later ih =>
    rw [List.cons_append, statementsFrom, statementsFrom, ih, statement?_concat, List.map_append,
      List.append_assoc, List.append_assoc, List.singleton_append, Option.toList_map]

/-- The first node with an identifier, among the statements that changes make behind others. -/
theorem find?_statementsFrom {earlier : List Change} {id : NodeId} (h : id ∉ ids earlier)
    (changes : List Change) :
    ((statementsFrom earlier changes).filterMap Statement.node?).find? (·.id = id) =
      nodeUnder? id changes := by
  induction changes generalizing earlier with
  | nil => rfl
  | cons change later ih =>
    have hlater (hne : ∀ node, change = .addNode node → node.id ≠ id) :
        ((statementsFrom (earlier ++ [change]) later).filterMap Statement.node?).find? (·.id = id) =
          nodeUnder? id later := by
      refine ih ?_
      rw [mem_ids_concat]
      rintro (hmem | ⟨node, hchange, hid⟩)
      · exact h hmem
      · exact hne node hchange hid
    rw [statementsFrom, List.filterMap_append, List.find?_append]
    cases change with
    | addNode node =>
      rw [nodeUnder?]
      split
      · rename_i hid
        rw [statement?, if_neg (by rw [hid]; exact h), hid]
        simp [Statement.node?, id_iterate_addPort, hid]
      · rename_i hid
        rw [hlater fun other hother => by cases hother; exact hid, statement?]
        split
        · rfl
        · simp [Statement.node?, id_iterate_addPort, hid]
    | addEdge edge =>
      rw [hlater fun node hnode => by cases hnode]
      rfl
    | addPort other =>
      rw [hlater fun node hnode => by cases hnode]
      rfl

end Change

/-! ## Changes that are made -/

variable {graph : Graph} {settings : GraphSettings} {changes : List Change}

/-- One more change is made to the graph of those before it. -/
theorem ofChanges_concat (settings : GraphSettings) (changes : List Change) (last : Change) :
    ofChanges settings (changes ++ [last]) = (ofChanges settings changes).apply last := by
  rw [ofChanges, List.foldl_append, List.foldl_cons, List.foldl_nil, ofChanges]

/-- A change adds the identifier of the node that it declares. -/
theorem mem_ids_apply {change : Change} {id : NodeId} :
    id ∈ (graph.apply change).ids ↔
      id ∈ graph.ids ∨ ∃ node, change = .addNode node ∧ node.id = id := by
  cases change with
  | addNode node => simp [apply, mem_ids_addNode, eq_comm]
  | addEdge edge => simp [apply]
  | addPort other => simp [apply]

/-- The nodes of a graph have the identifiers under which nodes have been declared. -/
theorem mem_ids_ofChanges {id : NodeId} :
    id ∈ (ofChanges settings changes).ids ↔ id ∈ Change.ids changes := by
  induction changes using List.reverseRecOn with
  | nil => rfl
  | append_singleton changes last ih =>
    rw [ofChanges_concat, mem_ids_apply, ih, Change.mem_ids_concat]

/-- A change declares no identifier twice. -/
theorem nodup_ids_apply (h : graph.ids.Nodup) (change : Change) : (graph.apply change).ids.Nodup := by
  cases change with
  | addNode node =>
    by_cases hmem : node.id ∈ graph.ids
    · rw [apply, addNode_of_contains (contains_iff.mpr hmem)]
      exact h
    · rw [apply, ids, statements_addNode_of_not_mem hmem, declaredIds_concat_node]
      refine List.nodup_append.mpr ⟨h, by simp, ?_⟩
      rintro id hid other hother rfl
      exact hmem (List.mem_singleton.mp hother ▸ hid)
  | addEdge edge => rwa [apply, ids_addEdge]
  | addPort id => rwa [apply, ids_addPort]

/-- A change revises the statements of a graph and may make one of its own. -/
theorem statements_apply (changes : List Change)
    (h : ∀ id, id ∈ graph.ids ↔ id ∈ Change.ids changes) (change : Change) :
    (graph.apply change).statements =
      graph.statements.map change.revise ++ (change.statement? changes []).toList := by
  cases change with
  | addNode node =>
    have hrevise : (Change.addNode node).revise = id := rfl
    rw [hrevise, List.map_id, apply, Change.statement?]
    split
    · rename_i hmem
      rw [addNode_of_contains (contains_iff.mpr ((h _).mpr hmem))]
      exact (List.append_nil _).symm
    · rename_i hmem
      rw [statements_addNode_of_not_mem fun hnode => hmem ((h _).mp hnode)]
      rfl
  | addEdge edge =>
    have hrevise : (Change.addEdge edge).revise = id := rfl
    rw [hrevise, List.map_id]
    rfl
  | addPort id => exact (List.append_nil _).symm

/-- **The statements of a graph are those that the changes make**, in the order of the changes. -/
theorem statements_ofChanges (settings : GraphSettings) (changes : List Change) :
    (ofChanges settings changes).statements = Change.statements changes := by
  induction changes using List.reverseRecOn with
  | nil => rfl
  | append_singleton changes last ih =>
    rw [ofChanges_concat, statements_apply changes fun _ => mem_ids_ofChanges, ih,
      Change.statements, Change.statements, Change.statementsFrom_concat, List.nil_append]

/-- A port that comes too early is added to no node, and a node that comes too late is not declared. -/
example (edge : Edge) :
    let bar : Node := { id := "A0".toList, shape := .record, label := [] }
    let note : Node := { bar with shape := .note }
    Change.statements
        [.addPort bar.id, .addNode bar, .addEdge edge, .addNode note, .addPort bar.id] =
      [.node bar.addPort, .edge edge] := rfl

/-- The node under an identifier is the first one that has been declared under it, with its ports. -/
theorem node?_ofChanges (settings : GraphSettings) (changes : List Change) (id : NodeId) :
    (ofChanges settings changes).node? id = Change.nodeUnder? id changes := by
  rw [node?, nodes, statements_ofChanges, Change.statements]
  exact Change.find?_statementsFrom List.not_mem_nil changes

end Graph

end UmlSketch
