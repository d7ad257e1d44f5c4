import UmlSketch.Span

/-! # Diagnostics
A diagnostic tells what is wrong with a document or a setting: a severity, a message, a code, labels
that point into the document, and advice. The diagnostics of a failure are listed with the error
that caused it, and `Diagnostic.summary` names that error and counts the others. -/

namespace UmlSketch

/-- How grave a diagnostic is. -/
inductive Severity
  /-- Nothing can be produced. -/
  | error
  /-- Something is ignored. -/
  | warning
  deriving DecidableEq, Repr

/-- The name of a severity. -/
def Severity.name : Severity → String
  | .error => "error"
  | .warning => "warning"

/-- What part of the input a diagnostic is about. -/
inductive Category
  /-- The notation of a line. -/
  | grammar
  /-- A setting given outside the document. -/
  | configuration
  /-- A directive of the document. -/
  | directive
  deriving DecidableEq, Repr

/-- The name of a category. -/
def Category.name : Category → String
  | .grammar => "grammar"
  | .configuration => "configuration"
  | .directive => "directive"

/-- The **code** of a diagnostic. -/
inductive Code
  /-- A token that the dialect does not have. -/
  | unrecognizedToken
  /-- An association without exactly one separator. -/
  | malformedAssociation
  /-- A message that does not end with an arrow. -/
  | malformedMessage
  /-- No kind of diagram is given. -/
  | missingKind
  /-- A setting names no kind of diagram. -/
  | invalidKind
  /-- A setting names no direction. -/
  | invalidDirection
  /-- A directive names no kind of diagram. -/
  | invalidKindDirective
  /-- A directive names no direction. -/
  | invalidDirectionDirective
  /-- A directive that changes nothing. -/
  | directiveWithoutEffect
  /-- A directive that is not known. -/
  | unknownDirective
  deriving DecidableEq, Repr

namespace Code

/-- The short form of a code. -/
def name : Code → String
  | .unrecognizedToken => "E100"
  | .malformedAssociation => "E101"
  | .malformedMessage => "E102"
  | .missingKind => "E200"
  | .invalidKind => "E201"
  | .invalidDirection => "E202"
  | .invalidKindDirective => "W300"
  | .invalidDirectionDirective => "W301"
  | .directiveWithoutEffect => "W302"
  | .unknownDirective => "W303"

/-- What a code stands for. -/
def description : Code → String
  | .unrecognizedToken => "unrecognized token"
  | .malformedAssociation => "malformed association"
  | .malformedMessage => "malformed message"
  | .missingKind => "missing diagram type"
  | .invalidKind => "invalid diagram type"
  | .invalidDirection => "invalid direction"
  | .invalidKindDirective => "invalid type directive"
  | .invalidDirectionDirective => "invalid direction directive"
  | .directiveWithoutEffect => "directive has no effect"
  | .unknownDirective => "unknown directive"

/-- The category of a code. -/
def category : Code → Category
  | .unrecognizedToken | .malformedAssociation | .malformedMessage => .grammar
  | .missingKind | .invalidKind | .invalidDirection => .configuration
  | .invalidKindDirective | .invalidDirectionDirective | .directiveWithoutEffect
  | .unknownDirective => .directive

/-- All codes. -/
def all : List Code :=
  [.unrecognizedToken, .malformedAssociation, .malformedMessage, .missingKind, .invalidKind,
    .invalidDirection, .invalidKindDirective, .invalidDirectionDirective, .directiveWithoutEffect,
    .unknownDirective]

/-- The code of a short form. -/
def ofName? (name : String) : Option Code := all.find? fun code => code.name = name

end Code

/-- A remark on a place of the document. -/
structure DiagnosticLabel where
  /-- The place. -/
  span : Span
  /-- What is remarked. -/
  message : String
  /-- Whether the place is the cause, and not only related to it. -/
  isPrimary : Bool
  deriving DecidableEq, Repr

/-- A **diagnostic**. -/
structure Diagnostic where
  /-- How grave it is. -/
  severity : Severity
  /-- What is wrong. -/
  message : String
  /-- Its code. -/
  code : Option Code := none
  /-- The places it is about. -/
  labels : List DiagnosticLabel := []
  /-- What can be done. -/
  help : Option String := none
  deriving DecidableEq, Repr

namespace Diagnostic

/-- The category of a diagnostic. -/
def category (diagnostic : Diagnostic) : Option Category := diagnostic.code.map Code.category

/-- Whether nothing can be produced. -/
def isError (diagnostic : Diagnostic) : Bool := diagnostic.severity = .error

/-- The diagnostic in one line. -/
def display (diagnostic : Diagnostic) : String :=
  let code :=
    match diagnostic.code with
    | some code => "[" ++ code.name ++ "]"
    | none => ""
  diagnostic.severity.name ++ code ++ ": " ++ diagnostic.message

/-- The first error of a list of diagnostics. -/
def primary? (diagnostics : List Diagnostic) : Option Diagnostic := diagnostics.find? isError

/-- A list of diagnostics in one line: the first error, or else the first of all, and the number of
the others. -/
def summary (diagnostics : List Diagnostic) : String :=
  match (primary? diagnostics).or diagnostics.head? with
  | none => ""
  | some first =>
    if 1 < diagnostics.length then
      first.display ++ " (+" ++ toString (diagnostics.length - 1) ++ " more)"
    else first.display

end Diagnostic

end UmlSketch
