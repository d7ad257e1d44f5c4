import UmlSketch.Diagnostic
import UmlSketch.Diagram
import UmlSketch.Token

/-! # What can be wrong
Each cause of a failure or a warning, with what it is about. The wording is given in one place per
cause, as a diagnostic. -/

namespace UmlSketch

/-- A text in the marks that quote a part of the input. -/
def quoted (text : Text) : String := "`" ++ String.ofList text ++ "`"

/-! ## Errors of notation -/

/-- Why a **token** is rejected. -/
inductive TokenError
  /-- The dialect has no such token. -/
  | unrecognized (kind : Kind) (token : Token)
  /-- An association does not have exactly one separator. -/
  | malformedAssociation (token : Token)
  /-- A message does not end with an arrow. -/
  | malformedMessage (token : Token)
  deriving DecidableEq, Repr

namespace TokenError

/-- The token that is rejected. -/
def token : TokenError → Token
  | .unrecognized _ token | .malformedAssociation token | .malformedMessage token => token

/-- The tokens that a dialect has. -/
def expected : Kind → String
  | .classes => "expected `[class]`, `^` or an association such as `1-*`"
  | .useCase =>
    "expected `(use case)`, `[actor]`, `<`, `>`, `-` or `^`"
  | .activity =>
    "expected `(activity)`, `<decision>`, `|bar|`, `label->` or `-`"
  | .state => "expected `(state)`, `event->` or `-`"
  | .deployment => "expected `[node]` or an association such as `label-`"
  | .package => "expected `[package]`, `label->` or `-`"
  | .sequence => "expected `[object]`, a message such as `call>` or `-`"

/-- The diagnostic for a rejected token; its label covers the token. -/
def diagnostic (error : TokenError) : Diagnostic :=
  let token := error.token
  let label (message : String) : List DiagnosticLabel := [⟨token.span, message, true⟩]
  match error with
  | .unrecognized kind _ =>
    { severity := .error
      message := "unrecognized token " ++ quoted token.text
      code := some .unrecognizedToken
      labels := label ("not valid in a " ++ kind.name ++ " diagram")
      help := some (expected kind) }
  | .malformedAssociation _ =>
    { severity := .error
      message := "malformed association " ++ quoted token.text
      code := some .malformedAssociation
      labels := label "expected a single `-` or `-.-` between the two ends" }
  | .malformedMessage _ =>
    { severity := .error
      message := "malformed message " ++ quoted token.text
      code := some .malformedMessage
      labels := label "a message must end with `>`, `.>` or `>>`"
      help := some "activation markers `(` and `)` may follow the arrow" }

end TokenError

/-! ## Errors of settings -/

/-- Why the **settings** of a diagram are rejected. -/
inductive SettingError
  /-- Neither the settings nor the document name a kind of diagram. -/
  | missingKind
  /-- The settings name no kind of diagram. -/
  | unknownKind (name : Text)
  /-- The settings name no direction. -/
  | unknownDirection (name : Text)
  deriving DecidableEq, Repr

/-- The diagnostic for rejected settings. -/
def SettingError.diagnostic : SettingError → Diagnostic
  | .missingKind =>
    { severity := .error
      message := "missing diagram type"
      code := some .missingKind
      help := some "add a directive such as `// \x7btype:class\x7d` or pass a diagram type" }
  | .unknownKind name =>
    { severity := .error
      message := "invalid diagram type " ++ quoted name
      code := some .invalidKind
      help := some ("valid types: " ++ ", ".intercalate (Kind.all.map Kind.name)) }
  | .unknownDirection name =>
    { severity := .error
      message := "invalid direction " ++ quoted name
      code := some .invalidDirection
      help := some "valid directions: TB, LR, RL" }

/-! ## Warnings about directives -/

/-- Why a **directive** is ignored. -/
inductive DirectiveWarning
  /-- The value names no kind of diagram. -/
  | invalidKind (value : Token)
  /-- The value names no direction. -/
  | invalidDirection (value : Token)
  /-- Generation is not a choice of the document. -/
  | generate (value : Token)
  /-- There is no directive with this key. -/
  | unknownKey (key : Token)
  deriving DecidableEq, Repr

namespace DirectiveWarning

/-- The part of the directive that the warning is about. -/
def subject : DirectiveWarning → Token
  | .invalidKind token | .invalidDirection token | .generate token | .unknownKey token => token

/-- The diagnostic for an ignored directive; its label covers the value or the key. -/
def diagnostic (warning : DirectiveWarning) : Diagnostic :=
  let subject := warning.subject
  let label (message : String) : List DiagnosticLabel := [⟨subject.span, message, true⟩]
  match warning with
  | .invalidKind _ =>
    { severity := .warning
      message := "invalid diagram type " ++ quoted subject.text
      code := some .invalidKindDirective
      labels := label "not a yUML diagram type"
      help := some ("expected one of class, usecase, activity, state, deployment, " ++
        "package or sequence") }
  | .invalidDirection _ =>
    { severity := .warning
      message := "invalid direction " ++ quoted subject.text
      code := some .invalidDirectionDirective
      labels := label "not a layout direction"
      help := some "expected topDown, leftToRight or rightToLeft" }
  | .generate _ =>
    { severity := .warning
      message :=
        if subject.text = "true".toList ∨ subject.text = "false".toList then
          "the generate directive has no effect"
        else "invalid generate value " ++ quoted subject.text
      code := some .directiveWithoutEffect
      labels := label "ignored" }
  | .unknownKey _ =>
    { severity := .warning
      message := "unknown directive " ++ quoted subject.text
      code := some .unknownDirective
      labels := label "ignored" }

end DirectiveWarning

end UmlSketch
