import UmlSketch.Text.Basic

/-! # Word wrapping
A text that reaches a given width is broken at the last space that still leaves the line within the
width, or else at the first space after it, and what follows is wrapped again. -/

namespace UmlSketch.Text

/-- The position of the space where a text is broken: the last one among the positions `1` to
`width`, or else the first one after them. -/
def breakPosition? (text : Text) (width : Nat) : Option Nat :=
  let isSpace (position : Nat) : Bool := text[position]? = some ' '
  ((List.range' 1 width).reverse.find? isSpace).or
    ((List.range' (width + 1) (text.length - (width + 1))).find? isSpace)

/-- Breaks a text into lines of roughly `width` characters, each break taking the place of a
space. -/
def wordWrap (text : Text) (width : Nat) : Text :=
  if text.length < width then text
  else
    match _h : breakPosition? text width with
    | none => text
    | some position => text.take position ++ '\n' :: wordWrap (text.drop (position + 1)) width
termination_by text.length
decreasing_by
  have hlt : position < text.length := by
    have hspace : text[position]? = some ' ' := by
      unfold breakPosition? at _h
      rcases Option.or_eq_some_iff.mp _h with h | ⟨_, h⟩ <;>
        simpa using List.find?_some h
    exact (List.getElem?_eq_some_iff.mp hspace).1
  simp only [List.length_drop]
  omega

end UmlSketch.Text
