import UmlSketch.Dialect.Boxes
import UmlSketch.Dialect.Draft
import UmlSketch.Dialect.Reading

/-! # Use case diagrams
Use cases stand in round and actors in square brackets. The connectors are single characters: `<`
extends, `>` includes, `^` inherits, `-` associates. -/

namespace UmlSketch.UseCases

/-- The edge that a connector stands for. -/
def edge? (token : Token) : Option EdgeExpr :=
  match token.text with
  | ['<'] =>
    some { tail := .vee, label := some "<<extend>>".toList, line := .dashed, span := token.span }
  | ['>'] =>
    some { head := .vee, label := some "<<include>>".toList, line := .dashed, span := token.span }
  | ['-'] => some { span := token.span }
  | ['^'] => some { head := .empty, span := token.span }
  | _ => none

/-- Reads a token of a use case diagram. -/
def readToken (token : Token) : Except TokenError Expr :=
  Reading.firstOf .useCase token
    [(token.enclosed? '(' ')').map fun content => Reading.recordOrNote content token.span,
      (token.enclosed? '[' ']').map fun content => Reading.bareNode .actor content token.span,
      (edge? token).map .edge]

/-- The mark that asks for the picture of an actor. -/
def actorMark : Text := "\x7bimg:actor\x7d ".toList

/-- The node of a use case, an actor or a note. -/
def draw (_ : Direction) (id : NodeId) (node : NodeExpr) : Node :=
  let label := Label.format node.label Label.width false
  match node.role with
  | .actor =>
    { id, shape := .none, label := actorMark ++ label
      height := some (.ofNat 1)
      margin := some (.hundredths 5, .hundredths 5)
      fontSize := some (.ofNat 10) }
  | .note => (Boxes.boxed id .note label).withFill node.fill
  | _ => (Boxes.boxed id .ellipse label).withFill node.fill

/-- The rules of use case diagrams. -/
def dialect : GraphDialect where
  rankSep := .tenths 7
  draw := draw
  connect := Draft.connectAt (.ofNat 2)

end UmlSketch.UseCases
