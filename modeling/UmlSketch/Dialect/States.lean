import UmlSketch.Dialect.Boxes
import UmlSketch.Dialect.Draft
import UmlSketch.Dialect.Reading

/-! # State diagrams
States stand in round brackets and are connected by arrows, each with the event before it. -/

namespace UmlSketch.States

/-- Reads a token of a state diagram. -/
def readToken (token : Token) : Except TokenError Expr :=
  Reading.firstOf .state token
    [(token.enclosed? '(' ')').map fun content => Reading.recordOrNote content token.span,
      Reading.arrow? token .solid, Reading.dash? token .solid]

/-- The node of a state or a note. -/
def draw (direction : Direction) (id : NodeId) (node : NodeExpr) : Node :=
  let box (shape : Shape) (label : Text) : Node :=
    ((Boxes.boxed id shape label).withStyle .rounded).withFill node.fill
  match node.role with
  | .record =>
    (Boxes.terminal? id node.label).getD (box .record (Boxes.recordLabel node.label direction))
  | .note => box .note (Label.format node.label Label.width true)
  | _ => box .record (Boxes.recordLabel node.label direction)

/-- The rules of state diagrams. -/
def dialect : GraphDialect where
  rankSep := .tenths 5
  draw := draw
  connect := Draft.connectAt (.ofNat 2)

end UmlSketch.States
