import UmlSketch.Proofs.Label.Guarded

/-! # Diagrams in another direction
The direction of a graph reaches the settings of its layout and three details of its statements: the
braces around the compartments of classes and states, the size of bars, and the sides from which edges
enter ports. Drawn in another direction, a graph is the same but for these
(`Kind.compileLines_redirect`). In particular its identifiers, ports and edges stay as they are, and so
do the errors of the lines. -/

namespace UmlSketch

/-! ## Redirecting -/

/-- A label with its compartments turned: if it has some, braces are put around it where they become
stacked, and are taken off where they no longer are. -/
def Label.turn (stacked : Bool) (label : Text) : Text :=
  if !label.contains '|' then label
  else if stacked then '\x7b' :: label ++ ['\x7d'] else label.tail.dropLast

/-- A box with compartments or a bar where the ranks are stacked that were side by side, or the other
way round. Classes and states have their labels turned; bars still lie across the direction. -/
def Node.turn (kind : Kind) (stacked : Bool) (node : Node) : Node :=
  match kind with
  | .classes | .state => { node with label := Label.turn stacked node.label }
  | .activity => { node with height := node.width, width := node.height }
  | .useCase | .deployment | .package | .sequence => node

/-- A node for another direction. -/
def Node.redirect (kind : Kind) (source target : Direction) (node : Node) : Node :=
  if node.shape = .record ∧ source.isVertical ≠ target.isVertical then
    node.turn kind target.isVertical
  else node

/-- An edge for another direction: in an activity diagram a port is entered from the side of the rank
before. -/
def Edge.redirect (kind : Kind) (target : Direction) (edge : Edge) : Edge :=
  match kind with
  | .activity =>
    { edge with
      target := { edge.target with compass := edge.target.compass.map fun _ => target.entryCompass } }
  | .classes | .useCase | .state | .deployment | .package | .sequence => edge

/-- A statement for another direction. -/
def Statement.redirect (kind : Kind) (source target : Direction) : Statement → Statement
  | .node declared => .node (declared.redirect kind source target)
  | .edge declared => .edge (declared.redirect kind target)

/-- A **graph in another direction**. -/
def Graph.redirect (kind : Kind) (direction : Direction) (graph : Graph) : Graph where
  settings := { graph.settings with direction }
  statements := graph.statements.map (Statement.redirect kind graph.settings.direction direction)

/-- A draft in another direction. -/
def Draft.redirect (kind : Kind) (direction : Direction) (draft : Draft) : Draft :=
  ⟨draft.registry, draft.graph.redirect kind direction⟩

/-- A **diagram in another direction**. Sequence diagrams have none. -/
def Artifact.redirect (kind : Kind) (direction : Direction) : Artifact → Artifact
  | .empty => .empty
  | .graph drawn => .graph (drawn.redirect kind direction)
  | .sequence model => .sequence model

/-! ## Nodes and edges -/

variable {kind : Kind} {source target direction : Direction}

namespace Node

@[simp] theorem id_turn (stacked : Bool) (node : Node) : (node.turn kind stacked).id = node.id := by
  cases kind <;> rfl

@[simp] theorem id_redirect (node : Node) : (node.redirect kind source target).id = node.id := by
  unfold redirect
  split
  · exact id_turn _ _
  · rfl

/-- Only boxes with compartments and bars depend on the direction. -/
theorem redirect_of_ne_record {node : Node} (h : node.shape ≠ .record) :
    node.redirect kind source target = node := if_neg fun hrecord => h hrecord.1

/-- In an activity diagram labels do not depend on the direction. -/
@[simp] theorem label_redirect_activity (node : Node) :
    (node.redirect .activity source target).label = node.label := by
  unfold redirect
  split <;> rfl

/-- In an activity diagram a port is added in the same way in all directions. -/
theorem addPort_redirect (node : Node) :
    (node.redirect .activity source target).addPort =
      node.addPort.redirect .activity source target := by
  have hshape : node.addPort.shape = node.shape := rfl
  unfold redirect
  rw [hshape]
  split <;> rfl

end Node

/-- An edge that enters no port does not depend on the direction. -/
theorem Edge.redirect_of_none {edge : Edge} (h : edge.target.compass = none) :
    edge.redirect kind direction = edge := by
  obtain ⟨_, ⟨node, port, compass⟩⟩ := edge
  obtain rfl : compass = none := h
  cases kind <;> rfl

/-! ## Graphs -/

@[simp] theorem Statement.declares_redirect (id : NodeId) (statement : Statement) :
    (statement.redirect kind source target).declares id = statement.declares id := by
  cases statement <;> simp [declares, node?, redirect]

namespace Graph

/-- The same identifiers are declared in all directions. -/
@[simp] theorem contains_redirect (graph : Graph) (id : NodeId) :
    (graph.redirect kind direction).contains id = graph.contains id := by
  simp [contains, redirect, List.any_map, Function.comp_def]

theorem addNode_redirect (graph : Graph) (node : Node) :
    (graph.redirect kind direction).addNode (node.redirect kind graph.settings.direction direction) =
      (graph.addNode node).redirect kind direction := by
  unfold addNode
  rw [contains_redirect, Node.id_redirect]
  split
  · rfl
  · simp [redirect, Statement.redirect]

theorem addEdge_redirect (graph : Graph) (edge : Edge) :
    (graph.redirect kind direction).addEdge (edge.redirect kind direction) =
      (graph.addEdge edge).redirect kind direction := by
  simp [addEdge, redirect, Statement.redirect]

/-- In an activity diagram a port is added to a node in the same way in all directions. -/
theorem addPort_redirect (graph : Graph) (id : NodeId) :
    (graph.redirect .activity direction).addPort id =
      (graph.addPort id).redirect .activity direction := by
  simp only [addPort, redirect, List.map_map]
  congr 1
  refine List.map_congr_left fun statement _ => ?_
  simp only [Function.comp_apply, Statement.declares_redirect]
  split
  · cases statement with
    | node declared => exact congrArg Statement.node (Node.addPort_redirect declared)
    | edge declared => rfl
  · rfl

/-- A node is found in all directions. -/
theorem node?_redirect (graph : Graph) (id : NodeId) :
    (graph.redirect kind direction).node? id =
      (graph.node? id).map (Node.redirect kind graph.settings.direction direction) := by
  have hnodes : (graph.redirect kind direction).nodes =
      graph.nodes.map (Node.redirect kind graph.settings.direction direction) := by
    simp only [nodes, redirect, List.filterMap_map, List.map_filterMap]
    refine List.filterMap_congr fun statement _ => ?_
    cases statement <;> rfl
  simp only [node?, hnodes, List.find?_map, Function.comp_def, Node.id_redirect]

end Graph

/-! ## Drawing -/

/-- The compartments of a label are stacked by braces around it and nothing else. -/
theorem Boxes.recordLabel_redirect (source target : Direction) (label : Text) :
    recordLabel label target =
      if source.isVertical ≠ target.isVertical then
        Label.turn target.isVertical (recordLabel label source)
      else recordLabel label source := by
  unfold recordLabel Label.turn
  generalize Label.format label Label.width true = written
  by_cases hfields : written.contains '|' = true
  · cases source.isVertical <;> cases target.isVertical <;> simp_all
  · cases source.isVertical <;> cases target.isVertical <;> simp_all

namespace Node

theorem redirect_withStyle (node : Node) (style : NodeStyle) :
    (node.withStyle style).redirect kind source target =
      (node.redirect kind source target).withStyle style := by
  have hturn (stacked : Bool) :
      (node.withStyle style).turn kind stacked = (node.turn kind stacked).withStyle style := by
    have hstyles : (node.turn kind stacked).styles = node.styles := by cases kind <;> rfl
    unfold withStyle
    rw [hstyles]
    split
    · rfl
    · cases kind <;> rfl
  unfold redirect
  rw [shape_withStyle, hturn]
  split <;> rfl

theorem redirect_withFill (node : Node) (fill : Option Fill) :
    (node.withFill fill).redirect kind source target =
      (node.redirect kind source target).withFill fill := by
  cases fill with
  | none => rfl
  | some fill =>
    have hfill (other : Node) : ({ other with fill := some fill } : Node).redirect kind source target =
        { other.redirect kind source target with fill := some fill } := by
      unfold redirect
      split
      · cases kind <;> rfl
      · rfl
    rw [withFill, hfill, redirect_withStyle, withFill]

/-- A class or a state has its label turned. -/
theorem redirect_boxed (hkind : kind.HasRecords) (id : NodeId) (label : Text) :
    (Boxes.boxed id .record (Boxes.recordLabel label source)).redirect kind source target =
      Boxes.boxed id .record (Boxes.recordLabel label target) := by
  rw [Boxes.recordLabel_redirect source target, redirect]
  split
  · rename_i hturned
    rw [if_pos hturned.2]
    rcases hkind with rfl | rfl <;> rfl
  · rename_i hkept
    rw [if_neg fun hturned => hkept ⟨rfl, hturned⟩]

/-- The start and the end of a flow do not depend on the direction. -/
theorem redirect_terminal?_getD (id : NodeId) (label : Text) (box : Node) :
    ((Boxes.terminal? id label).getD box).redirect kind source target =
      (Boxes.terminal? id label).getD (box.redirect kind source target) := by
  cases hterminal : Boxes.terminal? id label with
  | none => rfl
  | some circle => exact redirect_of_ne_record (Boxes.shape_of_terminal? hterminal)

end Node

theorem Classes.draw_redirect (id : NodeId) (bracket : NodeExpr) :
    draw target id bracket = (draw source id bracket).redirect .classes source target := by
  simp only [draw, Node.redirect_withFill]
  split
  · rw [Node.redirect_of_ne_record (by simp [Boxes.boxed])]
  · rw [Node.redirect_boxed (.inl rfl)]

theorem States.draw_redirect (id : NodeId) (bracket : NodeExpr) :
    draw target id bracket = (draw source id bracket).redirect .state source target := by
  simp only [draw]
  split
  · rw [Node.redirect_terminal?_getD, Node.redirect_withFill, Node.redirect_withStyle,
      Node.redirect_boxed (.inr rfl)]
  · rw [Node.redirect_of_ne_record (by simp [Boxes.boxed])]
  · rw [Node.redirect_withFill, Node.redirect_withStyle, Node.redirect_boxed (.inr rfl)]

theorem Activities.draw_redirect (id : NodeId) (bracket : NodeExpr) :
    draw target id bracket = (draw source id bracket).redirect .activity source target := by
  have hbox (shape : Shape) (hshape : shape ≠ .record) :
      (((Boxes.boxed id shape (Label.escape bracket.label)).withStyle .rounded).withFill
        bracket.fill).redirect .activity source target =
      ((Boxes.boxed id shape (Label.escape bracket.label)).withStyle .rounded).withFill bracket.fill :=
    Node.redirect_of_ne_record (by simpa [Boxes.boxed] using hshape)
  simp only [draw]
  split
  · rw [Node.redirect_terminal?_getD, hbox .rectangle (by decide)]
  · rw [Node.redirect_of_ne_record (by simp [Boxes.mark])]
  · -- The bar is as high as it was wide.
    cases source <;> cases target <;> rfl
  · rw [hbox .note (by decide)]
  · rw [hbox .rectangle (by decide)]

/-- **A bracket is drawn in another direction** as its node is redirected. -/
theorem Kind.draw_redirect {dialect : GraphDialect} (hdialect : kind.graphDialect? = some dialect)
    (source target : Direction) (id : NodeId) (bracket : NodeExpr) :
    dialect.draw target id bracket = (dialect.draw source id bracket).redirect kind source target := by
  cases kind <;> cases hdialect
  case classes => exact Classes.draw_redirect id bracket
  case state => exact States.draw_redirect id bracket
  case activity => exact Activities.draw_redirect id bracket
  all_goals
    -- Nothing is drawn by the direction.
    unfold Node.redirect
    split <;> rfl

/-! ## Lines -/

namespace Draft

variable {dialect : GraphDialect}

/-- A bracket is declared in the same way in all directions. -/
theorem declare_redirect (hdialect : kind.graphDialect? = some dialect) (draft : Draft)
    (bracket : NodeExpr) :
    (draft.redirect kind direction).declare dialect.draw bracket =
      (draft.declare dialect.draw bracket).redirect kind direction := by
  have hsame : (draft.redirect kind direction).Knows bracket ↔ draft.Knows bracket := Iff.rfl
  by_cases hknows : draft.Knows bracket
  · rw [declare_of_knows dialect.draw hknows, declare_of_knows dialect.draw (hsame.mpr hknows)]
  · rw [declare_of_not_knows dialect.draw hknows,
      declare_of_not_knows dialect.draw fun h => hknows (hsame.mp h)]
    simp only [redirect]
    rw [← Graph.addNode_redirect, ← Kind.draw_redirect hdialect]
    rfl

theorem declareAll_redirect (hdialect : kind.graphDialect? = some dialect) (draft : Draft)
    (exprs : List Expr) :
    (draft.redirect kind direction).declareAll dialect.draw exprs =
      (draft.declareAll dialect.draw exprs).redirect kind direction :=
  List.foldl_hom (redirect kind direction) fun draft bracket => declare_redirect hdialect draft bracket

theorem addEdge_redirect (draft : Draft) (edge : Edge) :
    (draft.redirect kind direction).addEdge (edge.redirect kind direction) =
      (draft.addEdge edge).redirect kind direction :=
  congrArg (Draft.mk draft.registry) (Graph.addEdge_redirect draft.graph edge)

end Draft

/-- In an activity diagram an edge ends at the same port in all directions; it is entered from the side
of the rank before. -/
theorem Activities.place_redirect (draft : Draft) (bracket : NodeExpr) {edge : Edge}
    (hedge : edge.target.compass = none) :
    place (draft.redirect .activity direction) bracket edge =
      (place draft bracket edge).redirect .activity direction := by
  have hkept : edge.redirect .activity direction = edge := Edge.redirect_of_none hedge
  have hadded : (draft.redirect .activity direction).addEdge edge =
      (draft.addEdge edge).redirect .activity direction := by
    rw [← Draft.addEdge_redirect, hkept]
  have hnode : (draft.redirect .activity direction).graph.node? edge.target.node =
      (draft.graph.node? edge.target.node).map
        (Node.redirect .activity draft.graph.settings.direction direction) :=
    Graph.node?_redirect draft.graph edge.target.node
  unfold place
  rw [hnode]
  cases draft.graph.node? edge.target.node with
  | none => cases bracket.role <;> exact hadded
  | some node =>
    cases bracket.role
    case bar =>
      -- The port has the same name, and it is added to the same node.
      have hport : (draft.graph.redirect .activity direction).addPort node.id =
          (draft.graph.addPort node.id).redirect .activity direction :=
        Graph.addPort_redirect draft.graph node.id
      simp only [Option.map_some, Node.id_redirect, Node.label_redirect_activity]
      rw [← Draft.addEdge_redirect]
      unfold Draft.redirect
      rw [← hport]
      rfl
    all_goals exact hadded

namespace Kind

/-- A link is added in the same way in all directions. -/
theorem addLink_redirect (draft : Draft) (link : NodeExpr × EdgeExpr × NodeExpr) :
    kind.addLink (draft.redirect kind direction) link =
      (kind.addLink draft link).redirect kind direction := by
  have hedge : (kind.edgeOf draft.registry.names link.1 link.2.1 link.2.2).redirect kind direction =
      kind.edgeOf draft.registry.names link.1 link.2.1 link.2.2 := Edge.redirect_of_none rfl
  cases kind
  case activity => exact Activities.place_redirect draft link.2.2 rfl
  all_goals exact (congrArg (Draft.addEdge _) hedge.symm).trans (Draft.addEdge_redirect draft _)

/-- A qualified association is added in the same way in all directions. -/
theorem addQualified_redirect (draft : Draft)
    (association : NodeExpr × EdgeExpr × NodeExpr × NodeExpr) :
    addQualified (draft.redirect .classes direction) association =
      (addQualified draft association).redirect .classes direction := by
  obtain ⟨left, link, right, qualifier⟩ := association
  have hjunction (id : NodeId) :
      (draft.graph.redirect .classes direction).addNode (Classes.junctionNode id) =
        (draft.graph.addNode (Classes.junctionNode id)).redirect .classes direction := by
    have hpoint : (Classes.junctionNode id).redirect .classes draft.graph.settings.direction direction =
        Classes.junctionNode id := Node.redirect_of_ne_record (by simp [Classes.junctionNode])
    rw [← Graph.addNode_redirect, hpoint]
  have hedges (edges : List Edge) (later : Draft) :
      edges.foldl Draft.addEdge (later.redirect .classes direction) =
        (edges.foldl Draft.addEdge later).redirect .classes direction :=
    List.foldl_hom (Draft.redirect .classes direction) fun later edge =>
      Draft.addEdge_redirect later edge
  unfold addQualified
  rw [← hedges]
  exact congrArg (fun graph => List.foldl Draft.addEdge (Draft.mk draft.registry graph) _) (hjunction _)

/-- The connectors of a line are drawn in the same way in all directions. -/
theorem connect_redirect {dialect : GraphDialect} (hdialect : kind.graphDialect? = some dialect)
    {draft : Draft} {exprs : List Expr} (hknown : ∀ bracket ∈ Expr.nodes exprs, draft.Knows bracket) :
    dialect.connect (draft.redirect kind direction) exprs =
      (dialect.connect draft exprs).redirect kind direction := by
  have hknown' : ∀ bracket ∈ Expr.nodes exprs, (draft.redirect kind direction).Knows bracket := hknown
  rw [connect_eq hdialect hknown, connect_eq hdialect hknown']
  split
  · rename_i association hqualified
    obtain ⟨left, link, right, qualifier⟩ := association
    obtain ⟨rfl, -⟩ := eq_of_qualified? hqualified
    exact addQualified_redirect draft _
  · exact List.foldl_hom (Draft.redirect kind direction) fun draft link => addLink_redirect draft link

end Kind

namespace GraphDialect

variable {dialect : GraphDialect} {draft : Draft} {seen : List NodeExpr}

theorem addLine_redirect (hdialect : kind.graphDialect? = some dialect)
    (hnames : draft.registry.names = recordNames seen) (line : List Expr) :
    dialect.addLine (draft.redirect kind direction) line =
      (dialect.addLine draft line).redirect kind direction := by
  rw [addLine, Draft.declareAll_redirect hdialect,
    Kind.connect_redirect hdialect (Draft.knows_of_mem_line dialect.draw hnames line)]
  rfl

/-- **Lines are drawn in the same way in all directions.** -/
theorem foldl_addLine_redirect (hdialect : kind.graphDialect? = some dialect)
    (hnames : draft.registry.names = recordNames seen) (lines : List (List Expr)) :
    lines.foldl dialect.addLine (draft.redirect kind direction) =
      (lines.foldl dialect.addLine draft).redirect kind direction := by
  induction lines generalizing draft seen with
  | nil => rfl
  | cons line rest ih =>
    rw [List.foldl_cons, List.foldl_cons, addLine_redirect hdialect hnames,
      ih (names_addLine hdialect hnames line)]

end GraphDialect

/-! ## Diagrams -/

/-- A diagram is drawn in another direction as it is redirected. -/
theorem Kind.artifactOf_redirect (kind : Kind) (first second : Direction) (lines : List (List Expr)) :
    kind.artifactOf second lines = (kind.artifactOf first lines).redirect kind second := by
  unfold artifactOf
  split
  · rename_i dialect hdialect
    have hempty : Draft.empty ⟨dialect.rankSep, second⟩ =
        (Draft.empty ⟨dialect.rankSep, first⟩).redirect kind second := rfl
    have hnames := Draft.names_empty ⟨dialect.rankSep, first⟩
    rw [GraphDialect.graphOf, hempty, GraphDialect.foldl_addLine_redirect hdialect hnames]
    rfl
  · rfl

/-- **The direction of a diagram** decides neither whether its lines can be read nor which diagnostic
they give, and two diagrams of the same lines in different directions differ in nothing but what the
direction is for: one is the other redirected. -/
theorem Kind.compileLines_redirect (kind : Kind) (first second : Direction) (lines : List SourceLine) :
    kind.compileLines second lines =
      (kind.compileLines first lines).map (Artifact.redirect kind second) := by
  unfold compileLines
  cases lines.mapM kind.parseLine with
  | error failure => rfl
  | ok read => exact congrArg Except.ok (kind.artifactOf_redirect first second read)

end UmlSketch
