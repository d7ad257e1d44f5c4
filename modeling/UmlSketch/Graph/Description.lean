import UmlSketch.Graph.Attributes
import UmlSketch.Graph.Basic

/-! # Graph descriptions
A graph is described to a layout engine by a document of the DOT language: a header with defaults, the
settings of the layout, and one line per statement. -/

namespace UmlSketch

/-- Attributes that are added to the header of a description or take the place of its own. -/
structure HeaderOverrides where
  /-- Attributes of the whole graph. -/
  graph : Attributes := []
  /-- Attributes of every node. -/
  node : Attributes := []
  /-- Attributes of every edge. -/
  edge : Attributes := []
  deriving DecidableEq, Repr

/-- How graphs are described: the palette and the changes to the header. -/
structure DescriptionStyle where
  /-- Whether lines and texts are white on a transparent background. -/
  dark : Bool
  /-- The changes to the header. -/
  overrides : HeaderOverrides := {}
  deriving DecidableEq, Repr

namespace DescriptionStyle

/-- The font of all texts. -/
def font : Attributes := [("fontname".toList, "Helvetica".toList)]

/-- White lines and texts. -/
def whiteInk : Attributes :=
  [("color".toList, "white".toList), ("fontcolor".toList, "white".toList)]

/-- The attributes of the whole graph. -/
def graphHeader (style : DescriptionStyle) : Attributes :=
  let palette : Attributes :=
    if style.dark then [("bgcolor".toList, "transparent".toList)] else []
  (font.setAll palette).setAll style.overrides.graph

/-- The attributes of every node. -/
def nodeHeader (style : DescriptionStyle) : Attributes :=
  let base : Attributes := font ++ [("shape".toList, "none".toList), ("margin".toList, ['0'])]
  (base.setAll (if style.dark then whiteInk else [])).setAll style.overrides.node

/-- The attributes of every edge. -/
def edgeHeader (style : DescriptionStyle) : Attributes :=
  (font.setAll (if style.dark then whiteInk else [])).setAll style.overrides.edge

end DescriptionStyle

/-- An attribute with a value that need not be quoted. -/
def bareAttribute (key : String) (value : Text) : Text × Text := (key.toList, value)

/-- An attribute with a quoted value. -/
def quotedAttribute (key : String) (value : Text) : Text × Text := (key.toList, Text.quote value)

/-- The shape that a node is drawn with: a record without compartments is a rectangle. -/
def Node.effectiveShape (node : Node) : Shape :=
  if node.shape = .record ∧ !node.label.contains '|' ∧ node.label.head? ≠ some '<' then .rectangle
  else node.shape

/-- The attributes of a node. -/
def Node.attributes (node : Node) : Attributes :=
  let size (key : String) (size? : Option Decimal) : Attributes :=
    (size?.map fun size => bareAttribute key size.render).toList
  let margin : Attributes :=
    (node.margin.map fun (x, y) => quotedAttribute "margin" (x.render ++ ',' :: y.render)).toList
  let styles : Attributes :=
    if node.styles = [] then []
    else [quotedAttribute "style" (Text.join [','] (node.styles.map (·.name.toList)))]
  let fill : Attributes :=
    match node.fill with
    | none => []
    | some fill =>
      quotedAttribute "fillcolor" fill.color ::
        (fill.textColor.map fun color => quotedAttribute "fontcolor" color.name.toList).toList
  [quotedAttribute "shape" node.effectiveShape.name.toList] ++ size "height" node.height ++
    size "width" node.width ++ margin ++ size "fontsize" node.fontSize ++ styles ++ fill ++
    size "penwidth" node.penWidth ++ [quotedAttribute "label" node.label]

/-- The attributes of an edge. -/
def Edge.attributes (edge : Edge) : Attributes :=
  let text (key : String) (text? : Option Text) : Attributes :=
    ((text?.filter (· ≠ [])).map (quotedAttribute key)).toList
  let size (key : String) (size? : Option Decimal) : Attributes :=
    (size?.map fun size => bareAttribute key size.render).toList
  [quotedAttribute "dir" "both".toList, quotedAttribute "style" edge.line.name.toList,
    quotedAttribute "arrowtail" edge.tail.name.toList,
    quotedAttribute "arrowhead" edge.head.name.toList] ++ text "label" edge.label ++
    text "taillabel" edge.tailLabel ++ text "headlabel" edge.headLabel ++
    size "labeldistance" edge.labelDistance ++ size "fontsize" edge.fontSize

/-- Attributes in brackets. -/
def Attributes.renderBracketed (attributes : Attributes) : Text :=
  '[' :: attributes.render ++ [']']

/-- A statement as the description writes it. -/
def Statement.render : Statement → Text
  | .node declared => declared.id ++ ' ' :: declared.attributes.renderBracketed
  | .edge declared =>
    let body :=
      declared.source.render ++ " -> ".toList ++ declared.target.render ++
        ' ' :: declared.attributes.renderBracketed
    if declared.sameRank then "\x7b rank=same; ".toList ++ body ++ "; \x7d".toList else body

namespace Graph

/-- The lines of a description between its braces. -/
def descriptionLines (graph : Graph) (style : DescriptionStyle) : List Text :=
  ["graph ".toList ++ style.graphHeader.renderBracketed,
    "node ".toList ++ style.nodeHeader.renderBracketed,
    "edge ".toList ++ style.edgeHeader.renderBracketed,
    "ranksep=".toList ++ graph.settings.rankSep.render,
    "rankdir=".toList ++ graph.settings.direction.rankDir.toList] ++
    graph.statements.map Statement.render

/-- The **description** of a graph. -/
def describe (graph : Graph) (style : DescriptionStyle) : Text :=
  let inner := (graph.descriptionLines style).flatMap fun line => "    ".toList ++ line ++ ['\n']
  "digraph G \x7b\n".toList ++ inner ++ "\x7d\n".toList

end Graph

end UmlSketch
