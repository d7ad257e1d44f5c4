import UmlSketch.Toml.Quoted
import UmlSketch.Toml.Value

/-! # TOML documents
A document is a sequence of statements, one a line: a header opens a table, and an entry gives a key
its value. Each reader takes its part off the start of a text and gives back the rest; reading a whole
document gives the table that its statements describe. -/

namespace UmlSketch.Toml

/-- How deep values may be nested, and how many tables a key may name on its way. -/
def maxDepth : Nat := 80

/-- A **reader** takes something off the start of a text and gives back what follows it. -/
abbrev Reader (α : Type) := Text → Option (α × Text)

/-! ## Gaps -/

/-- Passes over spaces. -/
def skipSpaces (text : Text) : Text := text.dropWhile isSpace

/-- Passes over one character, after spaces. -/
def skipMark? (mark : Char) (text : Text) : Option Text := Text.dropStart? [mark] (skipSpaces text)

/-- Passes over spaces, line breaks and comments. -/
def skipGap? (inComment : Bool) : Text → Option Text
  | [] => some []
  | c :: rest =>
    if c = '\n' then skipGap? false rest
    else if c = '\r' then if rest.head? = some '\n' then skipGap? false rest else none
    else if inComment then if isPlain c then skipGap? true rest else none
    else if isSpace c then skipGap? false rest
    else if c = '#' then skipGap? true rest
    else some (c :: rest)

/-- Passes over the end of a statement: spaces, perhaps a comment, and a line break or the end of the
text. -/
def skipLineEnd? (text : Text) : Option Text :=
  let rest := skipSpaces text
  let atEnd := if rest.head? = some '#' then rest.dropWhile isPlain else rest
  if atEnd = [] then some [] else lineBreak? atEnd

/-! ## Keys -/

/-- Whether a character may stand in a name without quotes. -/
def isBare (c : Char) : Bool := c.isAlphanum || c = '_' || c = '-'

/-- Reads one name of a key. -/
def name? (text : Text) : Option (Text × Text) :=
  let bare := text.takeWhile isBare
  if bare ≠ [] then some (bare, text.dropWhile isBare) else quoted? text

/-- Reads at most so many names with dots between them. -/
def names? : Nat → Reader (List Text)
  | 0, _ => none
  | limit + 1, text =>
    (name? (skipSpaces text)).bind fun (name, rest) =>
      match skipMark? '.' rest with
      | some rest => (names? limit rest).map fun (names, rest) => (name :: names, rest)
      | none => some ([name], rest)

/-- Reads a key. -/
def key? (text : Text) : Option (Key × Text) :=
  (names? (maxDepth + 1) text).bind fun (names, rest) =>
    names.getLast?.map fun last => (⟨names.dropLast, last⟩, rest)

/-! ## Values -/

/-- Whether a character may stand in a word: a truth value, a number, a date or a time. -/
def isWordChar (c : Char) : Bool :=
  c.isAlphanum || c = '_' || c = '+' || c = '-' || c = '.' || c = ':'

/-- Reads the characters of a word. A date may be followed by a space and a time. -/
def wordChars (text : Text) : Text × Text :=
  let word := text.takeWhile isWordChar
  let rest := text.dropWhile isWordChar
  match rest with
  | ' ' :: time =>
    if isDate word && time.head?.any Char.isDigit then
      (word ++ ' ' :: time.takeWhile isWordChar, time.dropWhile isWordChar)
    else (word, rest)
  | _ => (word, rest)

/-- The value of a word. -/
def valueOfWord? (word : Text) : Option Value :=
  if word = "true".toList then some (.boolean true)
  else if word = "false".toList then some (.boolean false)
  else ((Number.ofText? word).map Value.number).or ((Moment.ofText? word).map Value.moment)

/-- Reads a word. -/
def word? (text : Text) : Option (Value × Text) :=
  let (word, rest) := wordChars text
  (valueOfWord? word).map fun value => (value, rest)

/-- Reads the items of a list up to its closing mark. Commas separate the items, and one may follow the
last; there may be gaps around all of them. -/
def items? (item? : Reader α) (closer : Char) : Nat → Reader (List α)
  | 0, _ => none
  | limit + 1, text =>
    (skipGap? false text).bind fun text =>
      match Text.dropStart? [closer] text with
      | some rest => some ([], rest)
      | none =>
        (item? text).bind fun (item, rest) =>
          (skipGap? false rest).bind fun rest =>
            match Text.dropStart? [','] rest with
            | some rest =>
              (items? item? closer limit rest).map fun (items, rest) => (item :: items, rest)
            | none => (Text.dropStart? [closer] rest).map fun rest => ([item], rest)

/-- Reads a key and its value, with a gap of some kind around the mark between them. -/
def keyValue? (gap? : Text → Option Text) (value? : Reader Value) (text : Text) :
    Option ((Key × Value) × Text) := do
  let (key, rest) ← key? text
  let (value, rest) ← value? (← gap? (← Text.dropStart? ['='] (← gap? rest)))
  some ((key, value), rest)

/-- Reads a string or a word. -/
def scalar? (text : Text) : Option (Value × Text) :=
  match text.head? with
  | some '"' | some '\'' => (string? text).map fun (string, rest) => (.string string, rest)
  | _ => word? text

/-- Reads a value in which others are nested at most so deep. -/
def value? : Nat → Reader Value
  | 0, text => scalar? text
  | depth + 1, text =>
    match text with
    | '[' :: rest =>
      (items? (value? depth) ']' text.length rest).map fun (items, rest) => (.array items, rest)
    | '\x7b' :: rest =>
      (items? (keyValue? (skipGap? false) (value? depth)) '\x7d' text.length rest).bind fun (entries, rest) =>
        (Value.ofInline? entries).map fun table => (table, rest)
    | _ => scalar? text

/-! ## Statements -/

/-- A **statement** of a document. -/
inductive Statement
  /-- A key and its value. -/
  | entry (key : Key) (value : Value)
  /-- The header of a table. -/
  | header (key : Key)
  /-- The header of the next table of an array. -/
  | itemHeader (key : Key)
  deriving Repr

/-- Reads a statement and the end of its line. -/
def statement? (text : Text) : Option (Statement × Text) :=
  match text with
  | '[' :: '[' :: rest => do
    let (key, rest) ← key? rest
    let rest ← skipLineEnd? (← Text.dropStart? [']'] (← skipMark? ']' rest))
    some (.itemHeader key, rest)
  | '[' :: rest => do
    let (key, rest) ← key? rest
    let rest ← skipLineEnd? (← skipMark? ']' rest)
    some (.header key, rest)
  | _ => do
    let ((key, value), rest) ← keyValue? (fun text => some (skipSpaces text)) (value? maxDepth) text
    let rest ← skipLineEnd? rest
    some (.entry key value, rest)

/-- What a document describes, after some of its statements. -/
structure Draft where
  /-- The table of the whole document. -/
  root : Value := .table .declared []
  /-- The way to the table that entries are put into. -/
  current : List Text := []
  deriving Repr

/-- Carries out a statement, if no earlier one is in its way. -/
def Draft.add? (draft : Draft) : Statement → Option Draft
  | .entry key value =>
    (draft.root.alterAt false (fun table => table.insert key value) draft.current).map fun root =>
      { draft with root }
  | .header key => (draft.root.openTable key).map fun root => ⟨root, key.path ++ [key.name]⟩
  | .itemHeader key => (draft.root.openItem key).map fun root => ⟨root, key.path ++ [key.name]⟩

/-! ## Documents -/

/-- Why a text is no document. -/
inductive DocumentError
  /-- The text starts with no statement at this place. -/
  | malformed (rest : Text)
  /-- The statement at the start of this text contradicts an earlier one. -/
  | conflict (rest : Text)
  deriving DecidableEq, Repr

namespace DocumentError

/-- What is left when a document is given up. -/
def rest : DocumentError → Text
  | .malformed rest | .conflict rest => rest

/-- The number of the line at which a document is given up. -/
def line (error : DocumentError) (document : Text) : Nat :=
  document.count '\n' - error.rest.count '\n' + 1

/-- What is wrong with a document, and where. -/
def message (error : DocumentError) (document : Text) : String :=
  let cause :=
    match error with
    | .malformed _ => "malformed statement"
    | .conflict _ => "key is defined already"
  "line " ++ toString (error.line document) ++ ": " ++ cause

end DocumentError

/-- Carries out the statements of a text; there are at most `limit` of them. -/
def readStatements (limit : Nat) (draft : Draft) (text : Text) : Except DocumentError Draft :=
  match limit, skipGap? false text with
  | _, some [] => .ok draft
  | limit + 1, some rest =>
    match statement? rest with
    | none => .error (.malformed rest)
    | some (statement, after) =>
      match draft.add? statement with
      | none => .error (.conflict rest)
      | some draft => readStatements limit draft after
  | _, _ => .error (.malformed text)

/-- **Reads a document**: the entries of its table. A byte order mark may come first. -/
def read (document : Text) : Except DocumentError Entries :=
  let text := (Text.dropStart? ['\ufeff'] document).getD document
  match readStatements text.length {} text with
  | .ok ⟨.table _ entries, _⟩ => .ok entries
  | .ok _ => .ok []
  | .error error => .error error

end UmlSketch.Toml
