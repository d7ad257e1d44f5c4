import UmlSketch.Dialect.Boxes
import UmlSketch.Dialect.Draft
import UmlSketch.Dialect.Reading

/-! # Deployment diagrams
Nodes stand in square brackets and are connected by dashes, each with a label before it. -/

namespace UmlSketch.Deployments

/-- Reads a token of a deployment diagram. -/
def readToken (token : Token) : Except TokenError Expr :=
  Reading.firstOf .deployment token
    [(token.enclosed? '[' ']').map fun content => Reading.recordOrNote content token.span,
      (Text.dropUnescapedSuffix? ['-'] token.text).map fun label =>
        .edge { label := nonEmptyLabel? label, span := token.span }]

/-- The node of a box or a note. -/
def draw (_ : Direction) (id : NodeId) (node : NodeExpr) : Node :=
  let shape : Shape := if node.isNote then .note else .box3d
  (Boxes.boxed id shape (Label.format node.label Label.width true)).withFill node.fill

/-- The rules of deployment diagrams. -/
def dialect : GraphDialect where
  rankSep := .tenths 5
  draw := draw
  connect := Draft.connectAt (.ofNat 2)

end UmlSketch.Deployments
