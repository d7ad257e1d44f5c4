import UmlSketch.Diagram
import UmlSketch.Expr
import UmlSketch.Registry

/-! # Graphs
A graph is a list of statements, each declaring a node or an edge, with the settings of its layout. The
statements stand in the order in which they were made, and a node that is declared again under the
same identifier is ignored. Ports can be added to a declared node afterwards. -/

namespace UmlSketch

/-! ## Nodes -/

/-- The shape of a node. -/
inductive Shape
  /-- A box with compartments. -/
  | record
  /-- A plain box. -/
  | rectangle
  /-- An ellipse. -/
  | ellipse
  /-- A sheet with a folded corner. -/
  | note
  /-- A diamond. -/
  | diamond
  /-- A box with depth. -/
  | box3d
  /-- A box with a tab. -/
  | tab
  /-- A circle. -/
  | circle
  /-- Two circles, one in the other. -/
  | doubleCircle
  /-- A point. -/
  | point
  /-- Text alone. -/
  | none
  deriving DecidableEq, Repr

namespace Shape

/-- The name of a shape in a graph description. -/
def name : Shape → String
  | .record => "record"
  | .rectangle => "rectangle"
  | .ellipse => "ellipse"
  | .note => "note"
  | .diamond => "diamond"
  | .box3d => "box3d"
  | .tab => "tab"
  | .circle => "circle"
  | .doubleCircle => "doublecircle"
  | .point => "point"
  | .none => "none"

/-- All shapes. -/
def all : List Shape :=
  [.record, .rectangle, .ellipse, .note, .diamond, .box3d, .tab, .circle, .doubleCircle, .point,
    .none]

end Shape

/-- A property of how a node is drawn. -/
inductive NodeStyle
  /-- With round corners. -/
  | rounded
  /-- With a background. -/
  | filled
  /-- Not at all. -/
  | invisible
  deriving DecidableEq, Repr

/-- The name of a style in a graph description. -/
def NodeStyle.name : NodeStyle → String
  | .rounded => "rounded"
  | .filled => "filled"
  | .invisible => "invis"

/-- A **node** of a graph. -/
structure Node where
  /-- The identifier. -/
  id : NodeId
  /-- The shape. -/
  shape : Shape
  /-- The label as it is written in a graph description. -/
  label : Text
  /-- The least height, in inches. -/
  height : Option Decimal := none
  /-- The least width, in inches. -/
  width : Option Decimal := none
  /-- The horizontal and vertical margins around the label, in inches. -/
  margin : Option (Decimal × Decimal) := none
  /-- The size of the label's letters, in points. -/
  fontSize : Option Decimal := none
  /-- The styles, each once. -/
  styles : List NodeStyle := []
  /-- The background. -/
  fill : Option Fill := none
  /-- The width of the outline, in points. -/
  penWidth : Option Decimal := none
  deriving DecidableEq, Repr

namespace Node

/-- Adds a style that the node does not have yet. -/
def withStyle (node : Node) (style : NodeStyle) : Node :=
  if node.styles.contains style then node else { node with styles := node.styles ++ [style] }

/-- Fills a node, if there is a fill. -/
def withFill (node : Node) : Option Fill → Node
  | some fill => { node.withStyle .filled with fill := some fill }
  | none => node

/-- The name of the port that is added to a label next: it counts the label's fields. -/
def nextPort (label : Text) : Text :=
  'f' :: Decimal.digitsOf (if label = [] then 1 else (Text.fields '|' label).length + 1)

/-- Adds a port as the last field of a node's label. -/
def addPort (node : Node) : Node :=
  let field := '<' :: nextPort node.label ++ ['>']
  { node with label := if node.label = [] then field else node.label ++ '|' :: field }

@[simp] theorem id_withStyle (node : Node) (style : NodeStyle) :
    (node.withStyle style).id = node.id := by
  unfold withStyle
  split <;> rfl

@[simp] theorem id_withFill (node : Node) (fill : Option Fill) :
    (node.withFill fill).id = node.id := by
  cases fill <;> simp [withFill]

@[simp] theorem shape_withStyle (node : Node) (style : NodeStyle) :
    (node.withStyle style).shape = node.shape := by
  unfold withStyle
  split <;> rfl

@[simp] theorem label_withStyle (node : Node) (style : NodeStyle) :
    (node.withStyle style).label = node.label := by
  unfold withStyle
  split <;> rfl

@[simp] theorem shape_withFill (node : Node) (fill : Option Fill) :
    (node.withFill fill).shape = node.shape := by
  cases fill <;> simp [withFill]

@[simp] theorem label_withFill (node : Node) (fill : Option Fill) :
    (node.withFill fill).label = node.label := by
  cases fill <;> simp [withFill]

@[simp] theorem id_addPort (node : Node) : node.addPort.id = node.id := rfl

end Node

/-! ## Edges -/

/-- An **end of an edge**: a node, or a port of a node and the side on which it is entered. -/
structure Endpoint where
  /-- The node. -/
  node : NodeId
  /-- The port. -/
  port : Option Text := none
  /-- The side of the port, as a compass point. -/
  compass : Option Text := none
  deriving DecidableEq, Repr

/-- An end of an edge as a graph description writes it. -/
def Endpoint.render (endpoint : Endpoint) : Text :=
  let part (text? : Option Text) : Text := (text?.map (':' :: ·)).getD []
  endpoint.node ++ part endpoint.port ++ part endpoint.compass

/-- An **edge** of a graph. -/
structure Edge where
  /-- Where the edge starts. -/
  source : Endpoint
  /-- Where the edge ends. -/
  target : Endpoint
  /-- The arrow at the start. -/
  tail : ArrowKind := .none
  /-- The arrow at the end. -/
  head : ArrowKind := .none
  /-- The text in the middle. -/
  label : Option Text := none
  /-- The text at the start. -/
  tailLabel : Option Text := none
  /-- The text at the end. -/
  headLabel : Option Text := none
  /-- How the line is drawn. -/
  line : LineStyle := .solid
  /-- How far the texts at the ends are from the nodes. -/
  labelDistance : Option Decimal := none
  /-- The size of the texts' letters, in points. -/
  fontSize : Option Decimal := none
  /-- Whether the two nodes share a rank. -/
  sameRank : Bool := false
  deriving DecidableEq, Repr

/-! ## Graphs -/

/-- The settings of a graph's layout. -/
structure GraphSettings where
  /-- The distance between ranks, in inches. -/
  rankSep : Decimal
  /-- The direction of the ranks. -/
  direction : Direction
  deriving DecidableEq, Repr

/-- A **statement** of a graph. -/
inductive Statement
  /-- Declares a node. -/
  | node (node : Node)
  /-- Declares an edge. -/
  | edge (edge : Edge)
  deriving DecidableEq, Repr

namespace Statement

/-- The node that a statement declares. -/
def node? : Statement → Option Node
  | .node declared => some declared
  | .edge _ => none

/-- The edge that a statement declares. -/
def edge? : Statement → Option Edge
  | .node _ => none
  | .edge declared => some declared

/-- Whether a statement declares a node under an identifier. -/
def declares (id : NodeId) (statement : Statement) : Bool :=
  statement.node?.any fun node => node.id = id

/-- Changes the node that a statement declares. -/
def mapNode (change : Node → Node) : Statement → Statement
  | .node declared => .node (change declared)
  | .edge declared => .edge declared

end Statement

/-- A **graph**. -/
structure Graph where
  /-- The settings of the layout. -/
  settings : GraphSettings
  /-- The statements, in the order in which they were made. -/
  statements : List Statement := []
  deriving DecidableEq, Repr

namespace Graph

/-- The nodes, in the order in which they were declared. -/
def nodes (graph : Graph) : List Node := graph.statements.filterMap Statement.node?

/-- The edges, in the order in which they were declared. -/
def edges (graph : Graph) : List Edge := graph.statements.filterMap Statement.edge?

/-- The position of the statement that declares a node under an identifier. -/
def indexOf? (graph : Graph) (id : NodeId) : Option Nat :=
  graph.statements.findIdx? (Statement.declares id)

/-- The node under an identifier. -/
def node? (graph : Graph) (id : NodeId) : Option Node := graph.nodes.find? (·.id = id)

/-- Whether there is a node under an identifier. -/
def contains (graph : Graph) (id : NodeId) : Bool := graph.statements.any (Statement.declares id)

/-- Declares a node, unless its identifier is taken. -/
def addNode (graph : Graph) (node : Node) : Graph :=
  if graph.contains node.id then graph
  else { graph with statements := graph.statements ++ [.node node] }

/-- Declares an edge. -/
def addEdge (graph : Graph) (edge : Edge) : Graph :=
  { graph with statements := graph.statements ++ [.edge edge] }

/-- Adds a port to the node under an identifier, if there is one. -/
def addPort (graph : Graph) (id : NodeId) : Graph :=
  { graph with
    statements := graph.statements.map fun statement =>
      if statement.declares id then statement.mapNode Node.addPort else statement }

@[simp] theorem statements_addEdge (graph : Graph) (edge : Edge) :
    (graph.addEdge edge).statements = graph.statements ++ [.edge edge] := rfl

@[simp] theorem settings_addEdge (graph : Graph) (edge : Edge) :
    (graph.addEdge edge).settings = graph.settings := rfl

@[simp] theorem settings_addPort (graph : Graph) (id : NodeId) :
    (graph.addPort id).settings = graph.settings := rfl

@[simp] theorem settings_addNode (graph : Graph) (node : Node) :
    (graph.addNode node).settings = graph.settings := by
  unfold addNode
  split <;> rfl

/-- A node declared under a taken identifier changes nothing. -/
theorem addNode_of_contains {graph : Graph} {node : Node} (h : graph.contains node.id = true) :
    graph.addNode node = graph := if_pos h

end Graph

end UmlSketch
