import UmlSketch.Bracket
import UmlSketch.Expr
import UmlSketch.Problem

/-! # Reading tokens
What the dialects' readers of tokens share: brackets that hold a record or a note, brackets that hold a
bare label, and connectors whose label stands before the arrow. -/

namespace UmlSketch.Reading

/-- The record or note with the given content. -/
def recordOrNote (content : Text) (span : Span) : Expr :=
  let content := BracketContent.ofText content true
  let role : Role := if content.isNote then .note else .record
  .node ⟨role, content.text, content.fill, span⟩

/-- A bracket that has only a label. -/
def bareNode (role : Role) (content : Text) (span : Span) : Expr :=
  .node ⟨role, Text.trim content, none, span⟩

/-- An edge that points to the right and has its label before the arrow `->`. -/
def arrow? (token : Token) (line : LineStyle) : Option Expr :=
  (Text.dropUnescapedSuffix? ['-', '>'] token.text).map fun label =>
    .edge { head := .vee, label := nonEmptyLabel? label, line, span := token.span }

/-- An edge without arrow that is written as a single dash. -/
def dash? (token : Token) (line : LineStyle) : Option Expr :=
  if token.text = ['-'] then some (.edge { line, span := token.span }) else none

/-- The first reading of a token that succeeds; a token without one is not of the dialect. -/
def firstOf (kind : Kind) (token : Token) (readings : List (Option Expr)) :
    Except TokenError Expr :=
  match readings.findSome? id with
  | some expr => .ok expr
  | none => .error (.unrecognized kind token)

end UmlSketch.Reading
