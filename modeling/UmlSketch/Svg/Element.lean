import UmlSketch.Text.Basic

/-! # Elements of a drawing
A drawing in SVG is a tree of elements with attributes and texts. Attributes are written in the order
of their names, each child starts a line of its own, and in texts the characters that would start
markup are replaced. -/

namespace UmlSketch.Svg

/-- A **node** of a drawing. -/
inductive Node
  /-- An element with its attributes and children. -/
  | element (name : String) (attributes : List (String × Text)) (children : List Node)
  /-- A text. -/
  | text (content : Text)

/-- How a character is written in a text. -/
def escapeChar (c : Char) : Text :=
  if c = '&' then "&amp;".toList
  else if c = '<' then "&lt;".toList
  else if c = '>' then "&gt;".toList
  else [c]

/-- A text as it is written between tags. -/
def escape (text : Text) : Text := text.flatMap escapeChar

/-- The attributes of an element, in the order of their names, each after a space. Values are numbers,
colors and names, which hold no quote. -/
def renderAttributes (attributes : List (String × Text)) : Text :=
  (attributes.mergeSort fun first second => first.1 ≤ second.1).flatMap fun (name, value) =>
    ' ' :: name.toList ++ "=\"".toList ++ value ++ ['"']

mutual

/-- A node as it is written. -/
def Node.render : Node → Text
  | .text content => escape content
  | .element name attributes [] => '<' :: name.toList ++ renderAttributes attributes ++ ['/', '>']
  | .element name attributes (first :: rest) =>
    '<' :: name.toList ++ renderAttributes attributes ++ ['>'] ++
      Node.renderLines (first :: rest) ++ "\n</".toList ++ name.toList ++ ['>']

/-- Nodes as they are written, each on a new line. -/
def Node.renderLines : List Node → Text
  | [] => []
  | first :: rest => '\n' :: first.render ++ Node.renderLines rest

end

end UmlSketch.Svg
