import UmlSketch.Dialect.Boxes
import UmlSketch.Dialect.Draft
import UmlSketch.Dialect.Reading

/-! # Package diagrams
Packages stand in square brackets; every line between them is dashed, and an arrow has its label
before it. -/

namespace UmlSketch.Packages

/-- Reads a token of a package diagram. -/
def readToken (token : Token) : Except TokenError Expr :=
  Reading.firstOf .package token
    [(token.enclosed? '[' ']').map fun content => Reading.recordOrNote content token.span,
      Reading.dash? token .dashed, Reading.arrow? token .dashed]

/-- The node of a package or a note. -/
def draw (_ : Direction) (id : NodeId) (node : NodeExpr) : Node :=
  let shape : Shape := if node.isNote then .note else .tab
  (Boxes.boxed id shape (Label.format node.label Label.width true)).withFill node.fill

/-- The rules of package diagrams. -/
def dialect : GraphDialect where
  rankSep := .tenths 5
  draw := draw
  connect := Draft.connectAt (.ofNat 2)

end UmlSketch.Packages
