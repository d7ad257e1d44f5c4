import UmlSketch.Dialect.Basic
import UmlSketch.Text.WordChar

/-! # Documents
A document is a list of lines. Blank lines are passed over, lines that start with `//` are comments or
directives such as `// {type:class}`, and all others are instructions. Directives hold for the whole
document wherever they stand; one that is not understood leaves the settings as they are and gives a
warning. -/

namespace UmlSketch

/-- What a document starts from before its directives are applied. -/
structure CompileOptions where
  /-- The kind of diagram, if it is known. -/
  kind : Option Kind := some .classes
  /-- The direction of the ranks. -/
  direction : Direction := .topDown
  deriving DecidableEq, Repr

/-! ## Lines -/

/-- The lines of a text, each ended by a carriage return or a line feed. -/
def Text.lines : Text → List Text
  | [] => [[]]
  | c :: rest => if c = '\r' ∨ c = '\n' then [] :: lines rest else consFirst c (lines rest)

/-- The lines that are not blank, trimmed, with the positions where they start. -/
def SourceLine.place (offset : Nat) : List Text → List SourceLine
  | [] => []
  | piece :: rest =>
    let later := place (offset + Text.byteLength piece + 1) rest
    if Text.trim piece = [] then later
    else ⟨Text.trim piece, offset + Text.byteLength (piece.takeWhile Text.isBlank)⟩ :: later

/-- Whether a line is a comment or a directive. -/
def SourceLine.isComment (line : SourceLine) : Bool := ['/', '/'].isPrefixOf line.text

/-! ## Directives -/

/-- The key and the value of a **directive**. -/
structure Directive where
  /-- What is set. -/
  key : Token
  /-- What it is set to. -/
  value : Token
  deriving DecidableEq, Repr

/-- A text that is read from the left, with the position of its first byte. -/
structure Cursor where
  /-- What is left to read. -/
  text : Text
  /-- The position of its first byte. -/
  offset : Nat
  deriving DecidableEq, Repr

namespace Cursor

/-- Passes over one character. -/
def skipChar? (c : Char) (cursor : Cursor) : Option Cursor :=
  match cursor.text with
  | [] => none
  | first :: rest => if first = c then some ⟨rest, cursor.offset + c.utf8Size⟩ else none

/-- Reads the characters of a class. -/
def takeWhile (isIn : Char → Bool) (cursor : Cursor) : Text × Cursor :=
  let read := cursor.text.takeWhile isIn
  (read, ⟨cursor.text.dropWhile isIn, cursor.offset + Text.byteLength read⟩)

/-- Passes over blanks. -/
def skipBlanks (cursor : Cursor) : Cursor := (cursor.takeWhile Text.isBlank).2

/-- Reads a word of at least one character. -/
def word? (cursor : Cursor) : Option (Token × Cursor) :=
  let (read, after) := cursor.takeWhile Text.isWordChar
  if read = [] then none
  else some (⟨read, .ofLength cursor.offset (Text.byteLength read)⟩, after)

end Cursor

/-- Reads a directive: two slashes, blanks, and a key and a value in braces, to the end of the
line. -/
def Directive.ofLine? (line : SourceLine) : Option Directive := do
  let afterSlashes ← (← Cursor.skipChar? '/' ⟨line.text, line.offset⟩).skipChar? '/'
  let atBrace := afterSlashes.skipBlanks
  if atBrace.offset = afterSlashes.offset then none
  let (key, afterKey) ← (← atBrace.skipChar? '\x7b').skipBlanks.word?
  let (value, afterValue) ← (← afterKey.skipBlanks.skipChar? ':').skipBlanks.word?
  let ended ← afterValue.skipBlanks.skipChar? '\x7d'
  if ended.text = [] then some ⟨key, value⟩ else none

/-- Applies a directive to the settings, or warns that it is ignored. -/
def CompileOptions.apply (options : CompileOptions) (directive : Directive) :
    CompileOptions × Option DirectiveWarning :=
  let key := String.ofList directive.key.text
  let value := directive.value
  if key = "type" then
    match Kind.ofText? value.text with
    | some kind => ({ options with kind := some kind }, none)
    | none => (options, some (.invalidKind value))
  else if key = "direction" then
    match Direction.ofDirective? value.text with
    | some direction => ({ options with direction }, none)
    | none => (options, some (.invalidDirection value))
  else if key = "generate" then (options, some (.generate value))
  else (options, some (.unknownKey directive.key))

/-! ## Documents -/

/-- A **document**, taken apart. -/
structure Document where
  /-- The settings after all directives. -/
  options : CompileOptions
  /-- The instructions, in order. -/
  lines : List SourceLine := []
  /-- The warnings about directives, in order. -/
  warnings : List DirectiveWarning := []
  deriving DecidableEq, Repr

namespace Document

/-- Takes up the next line. -/
def addLine (document : Document) (line : SourceLine) : Document :=
  if line.isComment then
    match Directive.ofLine? line with
    | none => document
    | some directive =>
      let (options, warning?) := document.options.apply directive
      { document with options, warnings := document.warnings ++ warning?.toList }
  else { document with lines := document.lines ++ [line] }

/-- Takes a document apart, starting from the given settings. -/
def scan (source : Text) (options : CompileOptions) : Document :=
  (SourceLine.place 0 (Text.lines source)).foldl addLine { options }

end Document

end UmlSketch
