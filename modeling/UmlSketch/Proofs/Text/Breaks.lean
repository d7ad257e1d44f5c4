import Mathlib.Data.List.Forall2
import UmlSketch.Label

/-! # Line breaks of a wrapped text
Wrapping a text only turns some of its spaces into line breaks. `Text.BreaksInto` says so character by
character, and holds of `Text.wordWrap` and of `Label.wrap`, with compartments and without. -/

namespace UmlSketch

namespace Text

/-- Whether a text becomes another when some of its spaces are turned into line breaks. -/
def BreaksInto (text wrapped : Text) : Prop :=
  List.Forall₂ (fun c d => d = c ∨ c = ' ' ∧ d = '\n') text wrapped

namespace BreaksInto

/-- A text becomes itself when no space is turned. -/
theorem refl (text : Text) : BreaksInto text text :=
  List.forall₂_same.mpr fun _ _ => Or.inl rfl

/-- The parts of a text are broken on their own. -/
theorem append {first second wrapped others : Text} (hfirst : BreaksInto first wrapped)
    (hsecond : BreaksInto second others) : BreaksInto (first ++ second) (wrapped ++ others) :=
  List.rel_append hfirst hsecond

/-- Texts that are joined by the same separator are broken on their own. -/
theorem join (separator : Text) {parts wrapped : List Text}
    (h : List.Forall₂ BreaksInto parts wrapped) :
    BreaksInto (Text.join separator parts) (Text.join separator wrapped) := by
  induction h with
  | nil => exact refl _
  | cons hpart hrest ih =>
    cases hrest with
    | nil => simpa using hpart
    | cons _ _ =>
      rw [join_cons_cons, join_cons_cons]
      exact (hpart.append (refl separator)).append ih

/-- A character that is no line break stands in the broken text only if it stands in the text. -/
theorem not_mem {text wrapped : Text} (h : BreaksInto text wrapped) {c : Char} (hc : c ≠ '\n')
    (htext : c ∉ text) : c ∉ wrapped := by
  induction h with
  | nil => exact htext
  | cons hstep _ ih =>
    rw [List.mem_cons, not_or] at htext ⊢
    refine ⟨?_, ih htext.2⟩
    rcases hstep with rfl | ⟨-, rfl⟩
    · exact htext.1
    · exact hc

end BreaksInto

/-- A text is broken where it has a space. -/
theorem eq_space_of_breakPosition? {text : Text} {width position : Nat}
    (h : breakPosition? text width = some position) : text[position]? = some ' ' := by
  unfold breakPosition? at h
  rcases Option.or_eq_some_iff.mp h with h | ⟨-, h⟩ <;> simpa using List.find?_some h

/-- **Wrapping a text** turns some of its spaces into line breaks. -/
theorem breaksInto_wordWrap (text : Text) (width : Nat) : BreaksInto text (wordWrap text width) := by
  fun_induction wordWrap text width with
  | case1 text hshort => exact BreaksInto.refl text
  | case2 text hlong hnone => exact BreaksInto.refl text
  | case3 text hlong position hposition ih =>
    obtain ⟨hlt, hspace⟩ := List.getElem?_eq_some_iff.mp (eq_space_of_breakPosition? hposition)
    have htext : text = text.take position ++ ' ' :: text.drop (position + 1) := by
      rw [← hspace, ← List.drop_eq_getElem_cons hlt, List.take_append_drop]
    have hbroken := (BreaksInto.refl (text.take position)).append
      (List.Forall₂.cons (Or.inr ⟨rfl, rfl⟩) ih)
    rwa [← htext] at hbroken

end Text

/-- Wrapping a label turns some of its spaces into line breaks, with compartments or without. -/
theorem Label.breaksInto_wrap (label : Text) (width : Nat) (compartments : Bool) :
    label.BreaksInto (wrap label width compartments) := by
  unfold wrap
  split
  · have hparts : List.Forall₂ Text.BreaksInto (Text.fields '|' label)
        ((Text.fields '|' label).map fun part => Text.wordWrap part width) := by
      rw [List.forall₂_map_right_iff, List.forall₂_same]
      exact fun part _ => Text.breaksInto_wordWrap part width
    have hjoined := Text.BreaksInto.join ['|'] hparts
    rwa [Text.join_fields] at hjoined
  · exact Text.breaksInto_wordWrap label width

end UmlSketch
