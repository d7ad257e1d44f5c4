import UmlSketch.Dialect.Boxes
import UmlSketch.Dialect.Draft
import UmlSketch.Dialect.Reading

/-! # Class diagrams
Classes stand in square brackets and are connected by associations such as `<>1-*>`: an end marker
and a label on each side of one separator, `-` or, for a dashed line, `-.-`. A class that follows the
right end of an association directly qualifies it. -/

namespace UmlSketch.Classes

/-! ## Reading -/

/-- The arrow at the left end of an association, and the text without it. The outer markers come
first; a `>` may also stand at the inner side. -/
def leftEnd (side : Text) : ArrowKind × Text :=
  let readings : List (ArrowKind × Option Text) :=
    [(.hollowDiamond, Text.dropStart? ['<', '>'] side), (.diamond, Text.dropStart? ['+', '+'] side),
      (.hollowDiamond, Text.dropStart? ['+'] side), (.vee, Text.dropStart? ['<'] side),
      (.vee, Text.dropEnd? ['>'] side), (.empty, Text.dropStart? ['^'] side)]
  (readings.findSome? fun (arrow, rest?) => rest?.map (Prod.mk arrow)).getD (.none, side)

/-- The arrow at the right end of an association, and the text without it. A side without a marker of
its own is read like a left end. -/
def rightEnd (side : Text) : ArrowKind × Text :=
  let readings : List (ArrowKind × Option Text) :=
    [(.hollowDiamond, Text.dropEnd? ['<', '>'] side), (.diamond, Text.dropEnd? ['+', '+'] side),
      (.hollowDiamond, Text.dropEnd? ['+'] side), (.vee, Text.dropEnd? ['>'] side),
      (.empty, Text.dropEnd? ['^'] side), (.vee, Text.dropStart? ['>'] side)]
  (readings.findSome? fun (arrow, rest?) => rest?.map (Prod.mk arrow)).getD (leftEnd side)

/-- Reads an association: a dashed one if its separator occurs, else a solid one. -/
def association (token : Token) : Except TokenError Expr :=
  let dashed := Text.containsUnescaped ['-', '.', '-'] token.text
  let separator : Text := if dashed then ['-', '.', '-'] else ['-']
  match Text.splitUnescaped separator token.text with
  | [left, right] =>
    let (tail, tailText) := leftEnd left
    let (head, headText) := rightEnd right
    .ok (.edge
      { tail, head
        tailLabel := nonEmptyLabel? tailText
        headLabel := nonEmptyLabel? headText
        line := if dashed then .dashed else .solid
        span := token.span })
  | _ => .error (.malformedAssociation token)

/-- Reads a token of a class diagram. -/
def readToken (token : Token) : Except TokenError Expr :=
  match token.enclosed? '[' ']' with
  | some content => .ok (Reading.recordOrNote content token.span)
  | none =>
    if token.text = ['^'] then .ok (.edge { tail := .empty, span := token.span })
    else if Text.containsUnescaped ['-'] token.text then association token
    else .error (.unrecognized .classes token)

/-! ## Drawing -/

/-- The node of a class or a note. -/
def draw (direction : Direction) (id : NodeId) (node : NodeExpr) : Node :=
  let box :=
    if node.isNote then Boxes.boxed id .note (Label.format node.label Label.width true)
    else Boxes.boxed id .record (Boxes.recordLabel node.label direction)
  box.withFill node.fill

/-- The distance of the labels at the ends of an association. -/
def labelDistance : Decimal := .ofNat 2

/-- Completes an association; one with a note keeps its two nodes on one rank. -/
def finishEdge (source target : NodeExpr) (edge : Edge) : Edge :=
  { edge with
    labelDistance := some labelDistance
    sameRank := source.isNote || target.isNote }

/-- The invisible point in the middle of an association that a class qualifies. -/
def junctionNode (id : NodeId) : Node :=
  ({ id, shape := .point, label := []
     height := some (.hundredths 1)
     width := some (.hundredths 1) } : Node).withStyle .invisible

/-- The three edges of an association that a class qualifies: from the left class to the junction,
from the junction to the right class, and from the third class to the junction. -/
def qualifiedEdges (edge : EdgeExpr) (left right qualifier : NodeId) : List Edge :=
  let junction : Endpoint := { node := NodeId.junction left right }
  [{ source := { node := left }
     target := junction
     tail := edge.tail
     tailLabel := edge.tailLabel
     line := edge.line
     labelDistance := some labelDistance
     fontSize := some (.ofNat 10) },
   { source := junction
     target := { node := right }
     head := edge.head
     headLabel := edge.headLabel
     line := edge.line
     labelDistance := some labelDistance
     fontSize := some (.ofNat 10) },
   { source := { node := qualifier }
     target := junction
     head := .vee
     line := .dashed
     labelDistance := some labelDistance
     sameRank := true }]

/-- Adds an association that a class qualifies. -/
def qualify (draft : Draft) (left : NodeExpr) (edge : EdgeExpr) (right qualifier : NodeExpr) :
    Draft :=
  match draft.id? left, draft.id? right, draft.id? qualifier with
  | some left, some right, some qualifier =>
    let junction := junctionNode (NodeId.junction left right)
    (qualifiedEdges edge left right qualifier).foldl Draft.addEdge
      { draft with graph := draft.graph.addNode junction }
  | _, _, _ => draft

/-- Adds the edges of a line: an association with the class that qualifies it, or each connector
between two brackets. -/
def connect (draft : Draft) (exprs : List Expr) : Draft :=
  let connectEach := Draft.connectAll finishEdge (fun draft _ edge => draft.addEdge edge)
  match exprs with
  | [.node left, .edge edge, .node right, .node qualifier] =>
    if left.role = .record ∧ right.role = .record ∧ qualifier.role = .record then
      qualify draft left edge right qualifier
    else connectEach draft exprs
  | _ => connectEach draft exprs

/-- The rules of class diagrams. -/
def dialect : GraphDialect where
  rankSep := .tenths 7
  draw := draw
  connect := connect

end UmlSketch.Classes
