import UmlSketch.Span
import UmlSketch.Text.CharClass
import UmlSketch.Text.Escape

/-! # Tokens
A line of the notation is a sequence of bracketed regions and of the connectors between them. Which
characters open a bracket depends on the dialect; a bracket ends at the first closing character that
is not escaped, or at the end of the line, and brackets do not nest. Blanks around a token do not
belong to it. -/

namespace UmlSketch

/-- A **token**: a text without blanks at its ends, and the place where it stands. -/
structure Token where
  /-- The text of the token. -/
  text : Text
  /-- The bytes of the document that the token takes. -/
  span : Span
  deriving DecidableEq, Repr

namespace Token

/-- The text between an opening and a closing character, if the token starts and ends with them. -/
def enclosed? (token : Token) (opener closer : Char) : Option Text :=
  match token.text with
  | [] => none
  | c :: rest => if c = opener ∧ rest.getLast? = some closer then some rest.dropLast else none

/-- The character that closes a bracket; one that is not a bracket closes itself. -/
def closerOf (opener : Char) : Char :=
  if opener = '[' then ']' else if opener = '(' then ')' else if opener = '<' then '>' else opener

/-- Cuts a line into its bracketed regions and the texts between them, blanks included. -/
def pieces (openers : Text) : Text → List Text
  | [] => []
  | c :: rest =>
    if _opens : openers.contains c then
      match _read : Text.spanUnescaped (· == closerOf c) rest with
      | (content, []) => [c :: content]
      | (content, closer :: after) => (c :: content ++ [closer]) :: pieces openers after
    else
      let read := Text.spanUnescaped openers.contains (c :: rest)
      read.1 :: pieces openers read.2
termination_by line => line.length
decreasing_by
  · have := Text.length_spanUnescaped_snd_le (· == closerOf c) rest
    simp only [_read, List.length_cons] at this ⊢
    omega
  · exact Text.length_spanUnescaped_snd_lt (by simpa using _opens) rest

/-- The tokens of a list of pieces that stand one after the other from a position on. -/
def place (offset : Nat) : List Text → List Token
  | [] => []
  | piece :: rest =>
    let text := Text.trim piece
    let later := place (offset + Text.byteLength piece) rest
    if text = [] then later
    else
      let start := offset + Text.byteLength (piece.takeWhile Text.isBlank)
      ⟨text, .ofLength start (Text.byteLength text)⟩ :: later

end Token

/-- The tokens of a line that starts at a position of the document. -/
def tokenize (openers line : Text) (offset : Nat) : List Token :=
  Token.place offset (Token.pieces openers line)

end UmlSketch
