import UmlSketch.Color.Fill

/-! # The content of brackets
The content of a bracket is a text that may end with a background color, as in `Order{bg:wheat}`, and
that may begin with `note:` where notes are allowed. -/

namespace UmlSketch

/-- The **content of a bracket**, taken apart. -/
structure BracketContent where
  /-- The text without the color and without the mark of a note. -/
  text : Text
  /-- The fill that the content asks for. -/
  fill : Option Fill
  /-- Whether the content is marked as a note. -/
  isNote : Bool
  deriving DecidableEq, Repr

namespace BracketContent

/-- Whether a text may stand for a color in a bracket: `#` and six hexadecimal digits, or letters
followed by digits. -/
def isColorSpec (text : Text) : Bool :=
  match text with
  | '#' :: digits =>
    digits.length = 6 && digits.all fun c => (Color.hexValue? c.toLower).isSome
  | _ =>
    !(text.takeWhile Char.isAlpha).isEmpty &&
      (text.dropWhile Char.isAlpha).all CharClass.decimalNumber.contains

/-- Takes the mark that starts a background color off the end of a text that is read backwards:
spaces, a colon, spaces, `bg`, spaces and an opening brace. -/
def dropColorMark? (reversed : Text) : Option Text :=
  match reversed.dropWhile (· = ' ') with
  | ':' :: afterColon =>
    match afterColon.dropWhile (· = ' ') with
    | 'g' :: 'b' :: afterWord =>
      match afterWord.dropWhile (· = ' ') with
      | '{' :: before => some before
      | _ => none
    | _ => none
  | _ => none

/-- Splits a background color off the end of a content: the text before it, which holds no line
break, and the color specification. -/
def splitColor? (content : Text) : Option (Text × Text) :=
  match content.reverse with
  | '}' :: reversed =>
    let inner := reversed.dropWhile (· = ' ')
    let isSpecChar (c : Char) : Bool := c ≠ ' ' && c ≠ ':'
    let spec := (inner.takeWhile isSpecChar).reverse
    match dropColorMark? (inner.dropWhile isSpecChar) with
    | some before =>
      if isColorSpec spec && !before.contains '\n' then some (before.reverse, spec) else none
    | none => none
  | _ => none

/-- Takes the content of a bracket apart. -/
def ofText (content : Text) (allowNote : Bool) : BracketContent :=
  let (text, fill) :=
    match splitColor? content with
    | some (before, spec) => (Text.trim before, some (Fill.ofSpec spec))
    | none => (Text.trim content, none)
  let mark := "note:".toList
  if allowNote && mark.isPrefixOf text then ⟨Text.trim (text.drop mark.length), fill, true⟩
  else ⟨text, fill, false⟩

end BracketContent

end UmlSketch
