import UmlSketch.Text.Basic

/-! # Quoted texts in TOML
A basic string stands in quotes and may hold escapes; a literal string stands in apostrophes and is
taken as it is. Either may be written over several lines between three of its marks. Each reader takes
a string off the start of a text, after the opening mark, and gives back what follows the closing one. -/

namespace UmlSketch.Toml

/-- Whether a character may stand in a line as it is: a tab, or one that is no control character. -/
def isPlain (c : Char) : Bool := c = '\t' || (' ' ≤ c && c ≠ '\x7f')

/-- Whether a character separates words on a line. -/
def isSpace (c : Char) : Bool := c = ' ' || c = '\t'

/-- Passes over a line break. -/
def lineBreak? : Text → Option Text
  | '\n' :: rest | '\r' :: '\n' :: rest => some rest
  | _ => none

/-! ## Escapes -/

/-- The value of a hexadecimal digit. -/
def hexDigit? (c : Char) : Option Nat :=
  if c.isDigit then some (c.toNat - '0'.toNat)
  else if 'a' ≤ c.toLower && c.toLower ≤ 'f' then some (c.toLower.toNat - 'a'.toNat + 10)
  else none

/-- Reads the character that a number of hexadecimal digits stands for. -/
def hexChar? (length : Nat) (text : Text) : Option (Char × Text) :=
  let digits := text.take length
  if digits.length < length then none
  else
    (digits.foldlM (fun value c => (hexDigit? c).map (16 * value + ·)) 0).bind fun value =>
      if value.isValidChar then some (Char.ofNat value, text.drop length) else none

/-- Reads an escape after its backslash. -/
def escape? : Text → Option (Char × Text)
  | [] => none
  | c :: rest =>
    match c with
    | 'b' => some ('\x08', rest)
    | 't' => some ('\t', rest)
    | 'n' => some ('\n', rest)
    | 'f' => some ('\x0c', rest)
    | 'r' => some ('\r', rest)
    | 'e' => some ('\x1b', rest)
    | '"' => some ('"', rest)
    | '\\' => some ('\\', rest)
    | 'x' => hexChar? 2 rest
    | 'u' => hexChar? 4 rest
    | 'U' => hexChar? 8 rest
    | _ => none

/-- Passes over spaces and line breaks. -/
def skipBlank : Text → Text
  | '\r' :: '\n' :: rest => skipBlank rest
  | c :: rest => if isSpace c || c = '\n' then skipBlank rest else c :: rest
  | [] => []

/-- Passes over an escaped line break after its backslash, and over the spaces and line breaks that
follow it. -/
def escapedBreak? (text : Text) : Option Text :=
  (lineBreak? (text.dropWhile isSpace)).map skipBlank

/-! ## Strings on one line -/

/-- Reads a basic string; `skip` characters belong to an escape that is read already. -/
def basicFrom (skip : Nat) : Text → Option (Text × Text)
  | [] => none
  | c :: rest =>
    match skip with
    | skip + 1 => basicFrom skip rest
    | 0 =>
      if c = '"' then some ([], rest)
      else if c = '\\' then
        (escape? rest).bind fun (escaped, after) =>
          (basicFrom (rest.length - after.length) rest).map fun (text, left) =>
            (escaped :: text, left)
      else if isPlain c then (basicFrom 0 rest).map fun (text, left) => (c :: text, left)
      else none

/-- Reads a literal string. -/
def literal? : Text → Option (Text × Text)
  | [] => none
  | c :: rest =>
    if c = '\'' then some ([], rest)
    else if isPlain c then (literal? rest).map fun (text, left) => (c :: text, left)
    else none

/-! ## Strings over several lines -/

/-- Reads the marks that close a string over several lines: three, and before them at most two that
belong to the string. -/
def closing? (mark : Char) (text : Text) : Option (Text × Text) :=
  let marks := (text.takeWhile (· = mark)).length
  if marks < 3 then none
  else
    let inner := min 2 (marks - 3)
    some (List.replicate inner mark, text.drop (inner + 3))

/-- Reads the lines of a string; `skip` characters are read already, as a line feed after a carriage
return or as part of an escape. -/
def linesFrom (mark : Char) (escapes : Bool) (skip : Nat) : Text → Option (Text × Text)
  | [] => none
  | c :: rest =>
    match skip with
    | skip + 1 => linesFrom mark escapes skip rest
    | 0 =>
      match closing? mark (c :: rest) with
      | some closed => some closed
      | none =>
        if escapes && c = '\\' then
          match escapedBreak? rest with
          | some after => linesFrom mark escapes (rest.length - after.length) rest
          | none =>
            (escape? rest).bind fun (escaped, after) =>
              (linesFrom mark escapes (rest.length - after.length) rest).map fun (text, left) =>
                (escaped :: text, left)
        else if c = '\r' && rest.head? = some '\n' then
          (linesFrom mark escapes 1 rest).map fun (text, left) => ('\r' :: '\n' :: text, left)
        else if c = '\n' || isPlain c then
          (linesFrom mark escapes 0 rest).map fun (text, left) => (c :: text, left)
        else none

/-- Reads a string over several lines; a line break directly after the opening marks is left out. -/
def lines? (mark : Char) (text : Text) : Option (Text × Text) :=
  linesFrom mark (mark = '"') 0 ((lineBreak? text).getD text)

/-! ## All strings -/

/-- Reads a string on one line with its opening mark. -/
def quoted? : Text → Option (Text × Text)
  | '"' :: rest => basicFrom 0 rest
  | '\'' :: rest => literal? rest
  | _ => none

/-- Reads a string with its opening mark or marks. -/
def string? : Text → Option (Text × Text)
  | '"' :: '"' :: '"' :: rest => lines? '"' rest
  | '\'' :: '\'' :: '\'' :: rest => lines? '\'' rest
  | text => quoted? text

end UmlSketch.Toml
