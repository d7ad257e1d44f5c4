import UmlSketch.Proofs.Draft.Edges
import UmlSketch.Proofs.Draft.Nodes
import UmlSketch.Proofs.Label.Ports

/-! # Ports and the edges that enter at them
In an activity diagram an edge whose target is written as a bar ends at a port that is added to its
target. The name of the port is counted off the label of the target and the edge keeps a copy of it.
That the two agree for all nodes, however the edges into them are interleaved, is part of the invariant
`Draft.Ported`, which also says at which edges a port is added. -/

namespace UmlSketch

/-! ## The ports of a node -/

namespace Graph

/-- The ports at which edges enter a node, in the order of the edges. -/
def portsInto (graph : Graph) (id : NodeId) : List Text :=
  graph.edges.filterMap fun edge => if edge.target.node = id then edge.target.port else none

/-- An edge adds its port to those of its target. -/
theorem portsInto_addEdge (graph : Graph) (edge : Edge) (id : NodeId) :
    (graph.addEdge edge).portsInto id =
      graph.portsInto id ++ if edge.target.node = id then edge.target.port.toList else [] := by
  rw [portsInto, edges_addEdge, List.filterMap_append, ← portsInto]
  congr 1
  split
  · rename_i hid
    cases hport : edge.target.port <;> simp [hid, hport]
  · rename_i hid
    simp [hid]

/-- An edge without a port changes no ports. -/
theorem portsInto_addEdge_of_none (graph : Graph) {edge : Edge} (hport : edge.target.port = none)
    (id : NodeId) : (graph.addEdge edge).portsInto id = graph.portsInto id := by
  rw [portsInto_addEdge, hport]
  simp

@[simp] theorem portsInto_addNode (graph : Graph) (node : Node) (id : NodeId) :
    (graph.addNode node).portsInto id = graph.portsInto id := by
  rw [portsInto, edges_addNode, portsInto]

@[simp] theorem portsInto_addPort (graph : Graph) (entered id : NodeId) :
    (graph.addPort entered).portsInto id = graph.portsInto id := by
  rw [portsInto, edges_addPort, portsInto]

/-- If the edges into a node end at no port, there are no ports. -/
theorem portsInto_eq_nil {graph : Graph} {id : NodeId}
    (h : ∀ edge ∈ graph.edges, edge.target.node = id → edge.target.port = none) :
    graph.portsInto id = [] := by
  rw [portsInto, List.filterMap_eq_nil_iff]
  intro edge hedge
  split
  · rename_i hid
    exact h edge hedge hid
  · rfl

/-- No edge enters a node that is not declared. -/
theorem portsInto_eq_nil_of_not_mem {graph : Graph} {kind : Kind} (h : Orderly kind graph.statements)
    {id : NodeId} (hid : id ∉ graph.ids) : graph.portsInto id = [] := by
  refine portsInto_eq_nil fun edge hedge heq => absurd ?_ hid
  rw [← heq]
  exact h.target_mem_declaredIds hedge

end Graph

/-! ## The brackets that nodes are declared by -/

/-- Whether a bracket **declares** the node under an identifier: it is the first of some brackets with
its record name, and the identifier is that of the name. -/
def NodeExpr.Declares (bracket : NodeExpr) (brackets : List NodeExpr) (id : NodeId) : Prop :=
  firstNamed? brackets bracket.name = some bracket ∧ bracket.idIn (recordNames brackets) = id

namespace NodeExpr.Declares

variable {bracket other : NodeExpr} {brackets : List NodeExpr} {id : NodeId}

theorem mem (h : bracket.Declares brackets id) : bracket ∈ brackets := List.mem_of_find?_eq_some h.1

/-- Further brackets declare no node anew. -/
theorem concat (h : bracket.Declares brackets id) (last : NodeExpr) :
    bracket.Declares (brackets ++ [last]) id := by
  refine ⟨?_, ?_⟩
  · rw [firstNamed?_concat, h.1, Option.some_or]
  · rw [Kind.idIn_append h.mem, h.2]

/-- A bracket with a new name declares the next node. -/
theorem of_not_mem (h : bracket.name ∉ recordNames brackets) :
    bracket.Declares (brackets ++ [bracket]) (.box (recordNames brackets).length) := by
  have hnone : firstNamed? brackets bracket.name = none := by
    rw [← Option.not_isSome_iff_eq_none, firstNamed?_isSome]
    exact h
  refine ⟨?_, ?_⟩
  · rw [firstNamed?_concat, hnone, if_pos rfl, Option.none_or]
  · rw [NodeExpr.idIn, recordNames_concat, if_neg h, List.idxOf_append_of_notMem h]
    simp

/-- A node is declared by one bracket. -/
theorem unique (h : bracket.Declares brackets id) (hother : other.Declares brackets id) :
    other = bracket := by
  have hmem : bracket.name ∈ recordNames brackets := mem_recordNames.mpr ⟨bracket, h.mem, rfl⟩
  have hidx := NodeId.box_injective (h.2.trans hother.2.symm)
  have hname : bracket.name = other.name := (List.idxOf_inj hmem).mp hidx
  exact Option.some.inj (hother.1.symm.trans (hname ▸ h.1))

end NodeExpr.Declares

namespace NodeExpr

instance (bracket : NodeExpr) (brackets : List NodeExpr) (id : NodeId) :
    Decidable (bracket.Declares brackets id) :=
  inferInstanceAs (Decidable (_ ∧ _))

/-- The node of a bracket is declared by the first bracket with its name. -/
theorem declares_idIn_iff {bracket first : NodeExpr} {brackets : List NodeExpr}
    (hmem : bracket ∈ brackets) :
    first.Declares brackets (bracket.idIn (recordNames brackets)) ↔
      firstNamed? brackets bracket.name = some first := by
  have hname : bracket.name ∈ recordNames brackets := mem_recordNames.mpr ⟨bracket, hmem, rfl⟩
  constructor
  · rintro ⟨hfirst, hid⟩
    have hsame : bracket.name = first.name :=
      (List.idxOf_inj hname).mp (NodeId.box_injective hid.symm)
    rw [hsame]
    exact hfirst
  · intro hfirst
    have hsame := name_of_firstNamed? hfirst
    exact ⟨by rw [hsame]; exact hfirst, by rw [idIn, idIn, hsame]⟩

/-- The node of a bracket is declared. -/
theorem exists_declares_idIn {bracket : NodeExpr} {brackets : List NodeExpr}
    (hmem : bracket ∈ brackets) :
    ∃ first : NodeExpr, first.Declares brackets (bracket.idIn (recordNames brackets)) := by
  have hname : bracket.name ∈ recordNames brackets := mem_recordNames.mpr ⟨bracket, hmem, rfl⟩
  obtain ⟨first, hfirst⟩ := Option.isSome_iff_exists.mp (firstNamed?_isSome.mpr hname)
  exact ⟨first, (declares_idIn_iff hmem).mpr hfirst⟩

end NodeExpr

/-! ## Links to bars -/

/-- A declared node is found under its identifier. -/
theorem Graph.exists_node?_of_mem_ids {graph : Graph} {id : NodeId} (h : id ∈ graph.ids) :
    ∃ node ∈ graph.nodes, node.id = id ∧ graph.node? id = some node := by
  obtain ⟨declared, hdeclared, hid⟩ := List.mem_map.mp h
  have hsome : (graph.node? id).isSome = true :=
    List.find?_isSome.mpr ⟨declared, hdeclared, decide_eq_true hid⟩
  obtain ⟨node, hnode⟩ := Option.isSome_iff_exists.mp hsome
  exact ⟨node, List.mem_of_find?_eq_some hnode, Graph.id_of_node? hnode, hnode⟩

/-- A link to a bar that is drawn ends at the next port of the bar. -/
theorem Kind.addLink_of_bar (draft : Draft) (source : NodeExpr) (link : EdgeExpr) {target : NodeExpr}
    (hrole : target.role = .bar) {node : Node}
    (hnode : draft.graph.node? (target.idIn draft.registry.names) = some node) :
    Kind.addLink .activity draft (source, link, target) =
      ({ draft with graph := draft.graph.addPort node.id }).addEdge
        ((Kind.edgeOf .activity draft.registry.names source link target).enterAt
          (Node.nextPort node.label) draft.graph.settings.direction.entryCompass) := by
  simp only [Kind.addLink, Activities.place, hrole, Kind.edgeOf, hnode]
  rfl

/-- Any other link is added as it is. -/
theorem Kind.addLink_of_ne_bar (draft : Draft) (source : NodeExpr) (link : EdgeExpr)
    {target : NodeExpr} (hrole : target.role ≠ .bar) :
    Kind.addLink .activity draft (source, link, target) =
      draft.addEdge (Kind.edgeOf .activity draft.registry.names source link target) := by
  simp only [Kind.addLink, Activities.place]
  split
  · rename_i hbar _
    exact absurd hbar hrole
  · rfl

/-! ## The invariant of a draft -/

/-- **The invariant of a draft** that has been made from some brackets and the links between them. -/
structure Draft.Ported (draft : Draft) (direction : Direction) (seen : List NodeExpr)
    (links : List (NodeExpr × EdgeExpr × NodeExpr)) : Prop where
  /-- The nodes are numbered. -/
  numbered : draft.Numbered .activity Activities.draw direction seen
  /-- An edge ends at a port if its target is written as a bar. -/
  isSome_port : draft.graph.edges.map (fun edge => edge.target.port.isSome) =
    links.map fun link => decide (link.2.2.role = .bar)
  /-- The edges at ports enter the bar from the side where the ranks come from. -/
  compass : ∀ edge ∈ draft.graph.edges,
    edge.target.compass = edge.target.port.map fun _ => direction.entryCompass
  /-- The nodes are drawn from the brackets that declare them, and get a port for every edge that ends
  at one. -/
  drawn : ∀ node ∈ draft.graph.nodes, ∃ bracket, bracket.Declares seen node.id ∧
    node = Node.addPort^[(draft.graph.portsInto node.id).length]
      (Activities.draw direction node.id bracket)
  /-- The ports of the edges into a node are those of its label. -/
  portFields : ∀ node ∈ draft.graph.nodes,
    Label.portFields node.label = (draft.graph.portsInto node.id).map Label.portField

namespace Draft.Ported

variable {draft : Draft} {direction : Direction} {seen : List NodeExpr}
  {links : List (NodeExpr × EdgeExpr × NodeExpr)}

/-- The empty draft has no edges and no nodes. -/
theorem empty (settings : GraphSettings) :
    (Draft.empty settings).Ported settings.direction [] [] where
  numbered := .empty _ _ settings
  isSome_port := rfl
  compass := by simp [Draft.empty, Graph.edges]
  drawn := by simp [Draft.empty, Graph.nodes]
  portFields := by simp [Draft.empty, Graph.nodes]

/-- Declaring a bracket keeps the invariant: no edge enters a new node yet. -/
theorem declare (h : draft.Ported direction seen links) (bracket : NodeExpr) :
    (draft.declare Activities.draw bracket).Ported direction (seen ++ [bracket]) links := by
  have hid := Kind.id_draw (show Kind.graphDialect? .activity = some Activities.dialect from rfl)
  have hnumbered := h.numbered.declare hid bracket
  by_cases hknown : draft.Knows bracket
  · rw [Draft.declare_of_knows _ hknown] at hnumbered ⊢
    refine ⟨hnumbered, h.isSome_port, h.compass, fun node hnode => ?_, h.portFields⟩
    obtain ⟨first, hfirst, hdrawn⟩ := h.drawn node hnode
    exact ⟨first, hfirst.concat bracket, hdrawn⟩
  · have hsize : draft.registry.size = (recordNames seen).length := by
      rw [Registry.size, h.numbered.names]
    rw [Draft.declare_of_not_knows _ hknown, h.numbered.direction_eq, hsize] at hnumbered ⊢
    rw [Draft.Knows, h.numbered.names] at hknown
    generalize hnode : Activities.draw direction (.box (recordNames seen).length) bracket = new
      at hnumbered ⊢
    have hnewId : new.id = .box (recordNames seen).length := by
      rw [← hnode]
      exact hid _ _ _
    have hfresh : new.id ∉ draft.graph.ids := by
      rw [hnewId, h.numbered.box_mem_ids]
      omega
    -- Every edge enters a node that has been declared before it.
    have hempty := Graph.portsInto_eq_nil_of_not_mem h.numbered.orderly hfresh
    refine ⟨hnumbered, ?_, ?_, ?_, ?_⟩
    · rw [Graph.edges_addNode]
      exact h.isSome_port
    · rw [Graph.edges_addNode]
      exact h.compass
    · rw [Graph.nodes_addNode_of_not_mem hfresh, List.forall_mem_append, List.forall_mem_singleton]
      simp only [Graph.portsInto_addNode]
      refine ⟨fun node hmem => ?_, bracket, ?_, ?_⟩
      · obtain ⟨first, hfirst, hdrawn⟩ := h.drawn node hmem
        exact ⟨first, hfirst.concat bracket, hdrawn⟩
      · rw [hnewId]
        exact .of_not_mem hknown
      · rw [hempty, hnewId, hnode]
        rfl
    · rw [Graph.nodes_addNode_of_not_mem hfresh, List.forall_mem_append, List.forall_mem_singleton]
      simp only [Graph.portsInto_addNode]
      refine ⟨h.portFields, ?_⟩
      rw [hempty, ← hnode, Activities.portFields_draw]
      rfl

/-- Declaring the brackets of a line keeps the invariant. -/
theorem declareAll (h : draft.Ported direction seen links) (exprs : List Expr) :
    (draft.declareAll Activities.draw exprs).Ported direction (seen ++ Expr.nodes exprs) links :=
  Draft.declareAll_induction (P := fun later seen => later.Ported direction seen links)
    Activities.draw (fun _ _ bracket hlater => hlater.declare bracket) h exprs

/-- Of the nodes under an identifier there is one. -/
theorem eq_of_id_eq (h : draft.Ported direction seen links) {node other : Node}
    (hnode : node ∈ draft.graph.nodes) (hother : other ∈ draft.graph.nodes)
    (hid : node.id = other.id) : node = other :=
  List.inj_on_of_nodup_map h.numbered.orderly.nodup_declaredIds hnode hother hid

/-- A link to a bar adds a port to the bar and ends there. -/
theorem addLink_of_bar (h : draft.Ported direction seen links) {source target : NodeExpr}
    (link : EdgeExpr) (hrole : target.role = .bar) (hsource : draft.Knows source)
    (htarget : draft.Knows target) :
    (Kind.addLink .activity draft (source, link, target)).Ported direction seen
      (links ++ [(source, link, target)]) := by
  have hnumbered := h.numbered.addLink link hsource htarget
  obtain ⟨node, hmem, hid, hnode⟩ := Graph.exists_node?_of_mem_ids (h.numbered.idIn_mem_ids htarget)
  rw [Kind.addLink_of_bar draft source link hrole hnode] at hnumbered ⊢
  rw [h.numbered.direction_eq] at hnumbered ⊢
  generalize hedge : (Kind.edgeOf .activity draft.registry.names source link target).enterAt
    (Node.nextPort node.label) direction.entryCompass = edge at hnumbered ⊢
  have htargetId : edge.target.node = node.id := by rw [← hedge]; exact hid.symm
  have hport : edge.target.port = some (Node.nextPort node.label) := by rw [← hedge]; rfl
  have hcompass : edge.target.compass = some direction.entryCompass := by rw [← hedge]; rfl
  -- The bar has one port more, and every other node has the ports it had.
  have hbar : ((draft.graph.addPort node.id).addEdge edge).portsInto node.id =
      draft.graph.portsInto node.id ++ [Node.nextPort node.label] := by
    rw [Graph.portsInto_addEdge, Graph.portsInto_addPort, if_pos htargetId, hport]
    rfl
  have hother {other : Node} (hne : other.id ≠ node.id) :
      ((draft.graph.addPort node.id).addEdge edge).portsInto other.id =
        draft.graph.portsInto other.id := by
    rw [Graph.portsInto_addEdge, Graph.portsInto_addPort, if_neg (by rw [htargetId]; exact hne.symm),
      List.append_nil]
  refine ⟨hnumbered, ?_, ?_, ?_, ?_⟩
  · rw [Draft.addEdge, Graph.edges_addEdge, Graph.edges_addPort, List.map_append, List.map_append,
      h.isSome_port]
    simp [hport, hrole]
  · rw [Draft.addEdge, Graph.edges_addEdge, Graph.edges_addPort, List.forall_mem_append,
      List.forall_mem_singleton]
    exact ⟨h.compass, by rw [hcompass, hport]; rfl⟩
  · rw [Draft.addEdge, Graph.nodes_addEdge, Graph.nodes_addPort, List.forall_mem_map]
    intro other hmemOther
    obtain ⟨bracket, hbracket, hdrawn⟩ := h.drawn other hmemOther
    split
    · rename_i heq
      cases h.eq_of_id_eq hmemOther hmem heq
      refine ⟨bracket, hbracket, ?_⟩
      rw [Node.id_addPort, hbar, List.length_append, List.length_singleton,
        Function.iterate_succ_apply', ← hdrawn]
    · rename_i hne
      refine ⟨bracket, hbracket, ?_⟩
      rw [hother hne]
      exact hdrawn
  · rw [Draft.addEdge, Graph.nodes_addEdge, Graph.nodes_addPort, List.forall_mem_map]
    intro other hmemOther
    split
    · rename_i heq
      cases h.eq_of_id_eq hmemOther hmem heq
      rw [Node.id_addPort, hbar, Node.portFields_addPort, h.portFields _ hmem, List.map_append,
        List.map_singleton]
    · rename_i hne
      rw [hother hne]
      exact h.portFields other hmemOther

/-- Any other link adds an edge without a port. -/
theorem addLink_of_ne_bar (h : draft.Ported direction seen links) {source target : NodeExpr}
    (link : EdgeExpr) (hrole : target.role ≠ .bar) (hsource : draft.Knows source)
    (htarget : draft.Knows target) :
    (Kind.addLink .activity draft (source, link, target)).Ported direction seen
      (links ++ [(source, link, target)]) := by
  have hnumbered := h.numbered.addLink link hsource htarget
  rw [Kind.addLink_of_ne_bar draft source link hrole] at hnumbered ⊢
  generalize hedge : Kind.edgeOf .activity draft.registry.names source link target = edge
    at hnumbered ⊢
  have hport : edge.target.port = none := by rw [← hedge]; rfl
  have hcompass : edge.target.compass = none := by rw [← hedge]; rfl
  refine ⟨hnumbered, ?_, ?_, ?_, ?_⟩
  · rw [Draft.addEdge, Graph.edges_addEdge, List.map_append, List.map_append, h.isSome_port]
    simp [hport, hrole]
  · rw [Draft.addEdge, Graph.edges_addEdge, List.forall_mem_append, List.forall_mem_singleton]
    exact ⟨h.compass, by rw [hcompass, hport]; rfl⟩
  · rw [Draft.addEdge, Graph.nodes_addEdge]
    simp only [Graph.portsInto_addEdge_of_none _ hport]
    exact h.drawn
  · rw [Draft.addEdge, Graph.nodes_addEdge]
    simp only [Graph.portsInto_addEdge_of_none _ hport]
    exact h.portFields

/-- **A link keeps the invariant**, whether it is one to a bar or not. -/
theorem addLink (h : draft.Ported direction seen links) {source target : NodeExpr} (link : EdgeExpr)
    (hsource : draft.Knows source) (htarget : draft.Knows target) :
    (Kind.addLink .activity draft (source, link, target)).Ported direction seen
      (links ++ [(source, link, target)]) := by
  by_cases hrole : target.role = .bar
  · exact h.addLink_of_bar link hrole hsource htarget
  · exact h.addLink_of_ne_bar link hrole hsource htarget

/-- Links between known brackets keep the invariant. -/
theorem foldl_addLink (h : draft.Ported direction seen links)
    {more : List (NodeExpr × EdgeExpr × NodeExpr)}
    (hknown : ∀ link ∈ more, draft.Knows link.1 ∧ draft.Knows link.2.2) :
    (more.foldl (Kind.addLink .activity) draft).Ported direction seen (links ++ more) := by
  induction more generalizing draft links with
  | nil => simpa using h
  | cons link rest ih =>
    obtain ⟨source, link, target⟩ := link
    obtain ⟨hsource, htarget⟩ := hknown _ List.mem_cons_self
    have hrest := ih (h.addLink link hsource htarget) fun later hlater => by
      rw [Draft.Knows, Draft.Knows, Kind.registry_addLink]
      exact hknown later (List.mem_cons_of_mem _ hlater)
    rw [List.append_assoc, List.singleton_append] at hrest
    exact hrest

/-- **A line keeps the invariant.** -/
theorem addLine (h : draft.Ported direction seen links) (exprs : List Expr) :
    (Activities.dialect.addLine draft exprs).Ported direction (seen ++ Expr.nodes exprs)
      (links ++ Expr.links exprs) := by
  have hknown := Draft.knows_of_mem_line Activities.draw h.numbered.names exprs
  -- No line of an activity diagram is a qualified association: its links are all that it adds.
  have hconnect : Activities.dialect.addLine draft exprs =
      (Expr.sandwiched exprs).foldl (Kind.addLink .activity)
        (draft.declareAll Activities.draw exprs) :=
    Kind.connect_eq (show Kind.graphDialect? .activity = some Activities.dialect from rfl) hknown
  rw [hconnect, ← Expr.sandwiched_eq_links]
  refine (h.declareAll exprs).foldl_addLink ?_
  rintro ⟨source, link, target⟩ hlink
  obtain ⟨hsource, -, htarget⟩ := Expr.mem_of_mem_sandwiched hlink
  exact ⟨hknown _ (Expr.mem_nodes.mpr hsource), hknown _ (Expr.mem_nodes.mpr htarget)⟩

/-- **All lines keep the invariant.** -/
theorem foldl_addLine (h : draft.Ported direction seen links) (lines : List (List Expr)) :
    (lines.foldl Activities.dialect.addLine draft).Ported direction (seen ++ Expr.brackets lines)
      (links ++ lines.flatMap Expr.links) := by
  induction lines generalizing draft seen links with
  | nil => simpa using h
  | cons line rest ih =>
    have hrest := ih (h.addLine line)
    rw [List.append_assoc, List.append_assoc] at hrest
    exact hrest

end Draft.Ported

/-! ## The ports of a document -/

/-- **Ports and edges agree** in a graph whose ranks lie in a direction. -/
structure Graph.WellPorted (graph : Graph) (direction : Direction) : Prop where
  /-- The ports of a node's label are those at which edges enter the node, in the order of the edges. -/
  portFields : ∀ node ∈ graph.nodes,
    Label.portFields node.label = (graph.portsInto node.id).map Label.portField
  /-- No two edges enter a node at the same port. -/
  nodup : ∀ id, (graph.portsInto id).Nodup
  /-- An edge that ends at a port ends at a node with this port. -/
  resolves : ∀ edge ∈ graph.edges, ∀ port, edge.target.port = some port →
    ∃ node ∈ graph.nodes, node.id = edge.target.node ∧
      Label.portField port ∈ Text.fields '|' node.label
  /-- It enters the node from the side where the ranks come from. -/
  compass : ∀ edge ∈ graph.edges, ∀ port, edge.target.port = some port →
    edge.target.compass = some direction.entryCompass

/-- The port of an edge is one of those into its target. -/
theorem Graph.mem_portsInto {graph : Graph} {edge : Edge} (hedge : edge ∈ graph.edges) {port : Text}
    (hport : edge.target.port = some port) : port ∈ graph.portsInto edge.target.node :=
  List.mem_filterMap.mpr ⟨edge, hedge, by rw [if_pos rfl, hport]⟩

/-- Ports and edges agree in the graph of a draft with the invariant. -/
theorem Draft.Ported.wellPorted {draft : Draft} {direction : Direction} {seen : List NodeExpr}
    {links : List (NodeExpr × EdgeExpr × NodeExpr)} (h : draft.Ported direction seen links) :
    draft.graph.WellPorted direction where
  portFields := h.portFields
  nodup := by
    intro id
    by_cases hid : id ∈ draft.graph.ids
    · obtain ⟨node, hnode, rfl⟩ := List.mem_map.mp hid
      obtain ⟨bracket, -, hdrawn⟩ := h.drawn node hnode
      -- The ports of the label differ, and they are the same in number and order.
      have hnodup := Node.nodup_portFields_iterate_addPort
        (Activities.portFields_draw direction node.id bracket) (draft.graph.portsInto node.id).length
      rw [← hdrawn, h.portFields node hnode] at hnodup
      exact hnodup.of_map
    · rw [Graph.portsInto_eq_nil_of_not_mem h.numbered.orderly hid]
      exact List.nodup_nil
  resolves := by
    intro edge hedge port hport
    obtain ⟨node, hnode, hid⟩ :=
      List.mem_map.mp (h.numbered.orderly.target_mem_declaredIds hedge)
    refine ⟨node, hnode, hid, ?_⟩
    have hmem : Label.portField port ∈ Label.portFields node.label := by
      rw [h.portFields node hnode, hid]
      exact List.mem_map_of_mem (Graph.mem_portsInto hedge hport)
    exact List.mem_of_mem_filter hmem
  compass := by
    intro edge hedge port hport
    rw [h.compass edge hedge, hport]
    rfl

/-- **In an activity diagram ports and edges agree**: the ports of each node's label are those at which
edges enter it, each once and in order, whatever text its label has besides. -/
theorem Kind.wellPorted_of_compileLines {direction : Direction} {lines : List SourceLine}
    {graph : Graph} (h : Kind.compileLines .activity direction lines = .ok (.graph graph)) :
    graph.WellPorted direction := by
  obtain ⟨dialect, read, hdialect, -, rfl⟩ := Kind.graph_of_compileLines h
  cases hdialect
  exact ((Draft.Ported.empty ⟨_, direction⟩).foldl_addLine read).wellPorted

/-- Edges into two bars in turns, and one into an activity whose own text looks like a port. -/
theorem Kind.wellPorted_of_compileLines_turns :
    ∃ graph, Kind.compileLines .activity .leftToRight
        [⟨"(y|<f2>\\z)->|b|".toList, 0⟩, ⟨"(x)->|c|->|b|".toList, 17⟩, ⟨"(x)->|y|".toList, 31⟩] =
          .ok (.graph graph) ∧
      graph.nodes.map (fun node => String.ofList node.label) =
        ["y|\\<f2\\>\\z|<f3>", "<f1>|<f2>", "x", "<f1>"] ∧
      graph.edges.map (fun edge => String.ofList edge.target.render) =
        ["A1:f1:w", "A3:f1:w", "A1:f2:w", "A0:f3:w"] ∧
      graph.WellPorted .leftToRight := by
  have hgraph : (Kind.compileLines .activity .leftToRight
      [⟨"(y|<f2>\\z)->|b|".toList, 0⟩, ⟨"(x)->|c|->|b|".toList, 17⟩, ⟨"(x)->|y|".toList, 31⟩]).map
        (fun artifact => artifact.graph?.map fun graph =>
          (graph.nodes.map (fun node => String.ofList node.label),
            graph.edges.map (fun edge => String.ofList edge.target.render))) =
      .ok (some (["y|\\<f2\\>\\z|<f3>", "<f1>|<f2>", "x", "<f1>"],
        ["A1:f1:w", "A3:f1:w", "A1:f2:w", "A0:f3:w"])) := by decide +kernel
  obtain ⟨graph, hcompiled, hparts⟩ := Artifact.exists_of_map_graph? hgraph
  obtain ⟨hlabels, htargets⟩ := Prod.mk.inj hparts
  exact ⟨graph, hcompiled, hlabels, htargets, Kind.wellPorted_of_compileLines hcompiled⟩

end UmlSketch
