import UmlSketch.Text.CharClass
import UmlSketch.Text.Wrap

/-! # Labels
The text in a bracket names a box by what stands before its first `|`; the parts between the bars are
the compartments of the box. A label for a graph is wrapped and escaped for the record syntax of the
layout engine; a label that is drawn directly is only wrapped. -/

namespace UmlSketch.Label

/-- The width at which labels are wrapped. -/
def width : Nat := 20

/-- The name by which a label identifies a box: the text before the first `|`, trimmed. -/
def recordName (label : Text) : Text := Text.trim (label.takeWhile (· ≠ '|'))

/-- Wraps a label; with `compartments` each part between the bars is wrapped on its own. -/
def wrap (label : Text) (width : Nat) (compartments : Bool) : Text :=
  if compartments then
    Text.join ['|'] ((Text.fields '|' label).map fun part => Text.wordWrap part width)
  else Text.wordWrap label width

/-- How a character is written in a record label. -/
def escapeChar (c : Char) : Text :=
  if c = '{' ∨ c = '}' ∨ c = ' ' ∨ c = '<' ∨ c = '>' then ['\\', c]
  else if c = ';' ∨ c = '\n' then ['\\', 'n']
  else [c]

/-- A text as it is written in a record label; a semicolon is a line break. -/
def escape (text : Text) : Text := text.flatMap escapeChar

/-- A label for a graph, wrapped and escaped. -/
def format (label : Text) (width : Nat) (compartments : Bool) : Text :=
  escape (wrap label width compartments)

/-- A label that is drawn directly: wrapped, with a line break for every bar and semicolon. -/
def plain (label : Text) (width : Nat) : Text :=
  (wrap label width true).map fun c => if c = '|' ∨ c = ';' then '\n' else c

@[simp] theorem escape_nil : escape [] = [] := rfl

end UmlSketch.Label
