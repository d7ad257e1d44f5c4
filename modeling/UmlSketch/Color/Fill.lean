import UmlSketch.Color.Basic

/-! # Fills
A fill is the background color of a box and the color of the text on it. A specification that no
color is known for is kept as it is written, for the layout engine to try, and has no text color. -/

namespace UmlSketch

/-- The color of the text on a fill. -/
inductive TextColor
  /-- White text, for dark fills. -/
  | white
  /-- Black text, for light fills. -/
  | black
  deriving DecidableEq, Repr

namespace TextColor

/-- The name of a text color. -/
def name : TextColor → String
  | .white => "white"
  | .black => "black"

/-- The text color that contrasts with a color. -/
def contrasting (color : Color) : TextColor := if color.isDark then .white else .black

end TextColor

/-- The **fill** of a box. -/
structure Fill where
  /-- The background color as it is written. -/
  color : Text
  /-- The color of the text, if the background color is known. -/
  textColor : Option TextColor
  deriving DecidableEq, Repr

namespace Fill

/-- The fill of a known color. -/
def ofColor (color : Color) : Fill := ⟨color.toHex, some (.contrasting color)⟩

/-- The fill of a color specification. -/
def ofSpec (spec : Text) : Fill :=
  match Color.ofSpec? spec with
  | some color => ofColor color
  | none => ⟨Text.trim spec, none⟩

end Fill

end UmlSketch
