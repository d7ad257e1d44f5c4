import UmlSketch.Graph.Basic

/-! # Drawing boxes
What the dialects share when they draw a bracket as a node of a graph: the size hints of an ordinary
box, labels with compartments, and the circles where a flow starts and ends. -/

namespace UmlSketch.Boxes

/-- A box of the ordinary size with letters of ten points. -/
def boxed (id : NodeId) (shape : Shape) (label : Text) : Node :=
  { id, shape, label
    height := some (.tenths 5)
    margin := some (.tenths 2, .hundredths 5)
    fontSize := some (.ofNat 10) }

/-- A label whose compartments are set side by side in the direction of the ranks; braces around it
stack them where the ranks are stacked. -/
def recordLabel (label : Text) (direction : Direction) : Text :=
  let label := Label.format label Label.width true
  if direction.isVertical && label.contains '|' then '\x7b' :: label ++ ['\x7d'] else label

/-- A mark without text that is as high as it is wide. -/
def mark (id : NodeId) (shape : Shape) (size : Decimal) : Node :=
  { id, shape, label := []
    height := some size
    width := some size
    margin := some (.ofNat 0, .ofNat 0) }

/-- The circle for the start or the end of a flow, if a label asks for one. -/
def terminal? (id : NodeId) (label : Text) : Option Node :=
  if label = "start".toList then some (mark id .circle (.tenths 3))
  else if label = "end".toList then some (mark id .doubleCircle (.tenths 3))
  else none

end UmlSketch.Boxes
