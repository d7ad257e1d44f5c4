import UmlSketch.Text.Basic

/-! # Attributes of a graph description
Attributes are keys with values, in the order in which the keys were first set. A value that the
user has a part in is quoted: a quote that is not escaped gets a backslash, and so does a backslash
at the end, so that the quotes around the value are the only ones that end it. -/

namespace UmlSketch

/-- **Attributes**: keys and values, each key once. -/
abbrev Attributes := List (Text × Text)

namespace Attributes

/-- Gives a key a value; a key that has one already keeps its place. -/
def set (key value : Text) : Attributes → Attributes
  | [] => [(key, value)]
  | entry :: rest => if entry.1 = key then (key, value) :: rest else entry :: set key value rest

/-- Sets all entries of a list, one after the other. -/
def setAll (attributes entries : Attributes) : Attributes :=
  entries.foldl (fun attributes entry => attributes.set entry.1 entry.2) attributes

/-- Attributes as they stand between the brackets of a statement. -/
def render (attributes : Attributes) : Text :=
  Text.join [',', ' '] (attributes.map fun (key, value) => key ++ '=' :: value)

end Attributes

namespace Text

/-- The inside of a quoted text; `escaped` tells whether the next character is escaped. -/
def quoteFrom : Bool → Text → Text
  | escaped, [] => if escaped then ['\\'] else []
  | escaped, c :: rest =>
    let after := quoteFrom (c = '\\' && !escaped) rest
    if c = '"' && !escaped then '\\' :: c :: after else c :: after

/-- A text in quotes. -/
def quote (text : Text) : Text := '"' :: quoteFrom false text ++ ['"']

end Text

end UmlSketch
