import UmlSketch.Registry

/-! # Plain texts
The identifiers, keys and numbers of a graph description are plain: letters, digits and a few marks,
none of which has a meaning for whoever reads the description. Everything else in it is quoted. -/

namespace UmlSketch

namespace Text

/-- Whether a character may stand in an identifier, a key or a number. -/
def isPlainChar (c : Char) : Bool := c.isAlphanum || c = '.' || c = '-' || c = ':'

/-- Whether a text is **plain**. -/
def IsPlain (text : Text) : Prop := ∀ c ∈ text, isPlainChar c = true

instance : DecidablePred IsPlain := fun text =>
  List.decidableBAll (fun c => isPlainChar c = true) text

theorem isPlain_cons {c : Char} {rest : Text} :
    IsPlain (c :: rest) ↔ isPlainChar c = true ∧ IsPlain rest :=
  List.forall_mem_cons

theorem isPlain_append {first second : Text} :
    IsPlain (first ++ second) ↔ IsPlain first ∧ IsPlain second :=
  List.forall_mem_append

/-- A part of a plain text is plain. -/
theorem IsPlain.mono {text part : Text} (h : text.IsPlain) (hpart : part ⊆ text) : part.IsPlain :=
  fun c hc => h c (hpart hc)

/-- A character with a meaning does not occur in a plain text. -/
theorem IsPlain.not_mem {text : Text} {c : Char} (h : text.IsPlain)
    (hc : isPlainChar c = false) : c ∉ text := by
  intro hmem
  rw [h c hmem] at hc
  exact Bool.noConfusion hc

end Text

/-! ## Numbers and identifiers -/

/-- The digits of a number are plain. -/
theorem Decimal.isPlain_digitsOf (n : Nat) : Text.IsPlain (digitsOf n) := by
  intro c hc
  have hdigit : c.isDigit = true := Nat.isDigit_of_mem_toDigits (by decide) (by decide) hc
  simp [Text.isPlainChar, Char.isAlphanum, hdigit]

/-- A number that is written out is plain. -/
theorem Decimal.isPlain_render (d : Decimal) : Text.IsPlain d.render := by
  have hall : Text.IsPlain (padZeros (d.places + 1) (digitsOf d.digits)) := by
    refine Text.isPlain_append.mpr ⟨fun c hc => ?_, isPlain_digitsOf d.digits⟩
    rw [List.eq_of_mem_replicate hc]
    decide
  have hsign : Text.IsPlain (if d.negative then ['-'] else []) := by
    split <;> decide
  have hwhole := hall.mono (List.take_subset
    ((padZeros (d.places + 1) (digitsOf d.digits)).length - d.places) _)
  have hfraction := hall.mono (List.drop_subset
    ((padZeros (d.places + 1) (digitsOf d.digits)).length - d.places) _)
  unfold render
  simp only
  split
  · exact Text.isPlain_append.mpr ⟨hsign, hwhole⟩
  · exact Text.isPlain_append.mpr
      ⟨Text.isPlain_append.mpr ⟨hsign, hwhole⟩, Text.isPlain_cons.mpr ⟨by decide, hfraction⟩⟩

namespace NodeId

/-- The identifier of a box is plain. -/
theorem isPlain_box (number : Nat) : Text.IsPlain (box number) :=
  Text.isPlain_cons.mpr ⟨by decide, Decimal.isPlain_digitsOf number⟩

/-- The identifier of a junction between plain ones is plain. -/
theorem isPlain_junction {first second : NodeId} (hfirst : Text.IsPlain first)
    (hsecond : Text.IsPlain second) : Text.IsPlain (junction first second) :=
  Text.isPlain_append.mpr ⟨hfirst, Text.isPlain_cons.mpr ⟨by decide, hsecond⟩⟩

end NodeId

end UmlSketch
