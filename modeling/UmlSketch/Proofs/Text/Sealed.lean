import UmlSketch.Proofs.Text.Escapes
import UmlSketch.Text.CharClass

/-! # Sealed texts
A text between two delimiters ends where it is meant to if the delimiter does not show in it but behind
a backslash, and if no backslash is left at its end to escape the delimiter itself. Such a text is
sealed: reading goes on behind it as if it started there
(`Text.spanUnescaped_append_of_isSealed`). -/

namespace UmlSketch.Text

/-- Whether a text is **sealed** against a class of characters: read with a backslash taking the next
character with it, it has none of them outside of such pairs, and no backslash is left alone at its
end. -/
def isSealed (stop : Char → Bool) : Text → Bool
  | [] => true
  | '\\' :: _ :: rest => isSealed stop rest
  | c :: rest => c ≠ '\\' && !stop c && isSealed stop rest

variable {stop : Char → Bool} {text : Text}

@[simp] theorem isSealed_nil : isSealed stop [] = true := rfl

@[simp] theorem isSealed_backslash : isSealed stop ['\\'] = false := rfl

@[simp] theorem isSealed_pair (c : Char) (rest : Text) :
    isSealed stop ('\\' :: c :: rest) = isSealed stop rest := rfl

theorem isSealed_cons_of_ne {c : Char} (h : c ≠ '\\') (rest : Text) :
    isSealed stop (c :: rest) = (!stop c && isSealed stop rest) := by
  rw [isSealed.eq_3 _ _ _ fun _ _ heq => absurd heq h]
  simp [h]

/-- Reading goes on behind a sealed text as if it started there. -/
theorem spanUnescaped_append_of_isSealed (h : isSealed stop text = true) (rest : Text) :
    spanUnescaped stop (text ++ rest) =
      (text ++ (spanUnescaped stop rest).1, (spanUnescaped stop rest).2) := by
  induction text using pairs_induction with
  | nil => rfl
  | backslash => simp at h
  | pair c after ih =>
    rw [List.cons_append, List.cons_append, spanUnescaped, ih h]
    rfl
  | char c after hc ih =>
    rw [isSealed_cons_of_ne hc, Bool.and_eq_true, Bool.not_eq_true'] at h
    rw [List.cons_append, spanUnescaped_cons_of_ne hc, ih h.2, h.1]
    rfl

theorem isSealed_append {before after : Text} (hbefore : isSealed stop before = true)
    (hafter : isSealed stop after = true) : isSealed stop (before ++ after) = true := by
  induction before using pairs_induction with
  | nil => exact hafter
  | backslash => simp at hbefore
  | pair c rest ih => exact ih hbefore
  | char c rest hc ih =>
    rw [isSealed_cons_of_ne hc, Bool.and_eq_true] at hbefore
    rw [List.cons_append, isSealed_cons_of_ne hc, hbefore.1, ih hbefore.2, Bool.and_self]

/-- A text without backslashes in which nothing stops is sealed. -/
theorem isSealed_of_forall (h : ∀ c ∈ text, c ≠ '\\' ∧ stop c = false) :
    isSealed stop text = true := by
  induction text with
  | nil => rfl
  | cons c rest ih =>
    obtain ⟨⟨hc, hstop⟩, hrest⟩ := List.forall_mem_cons.mp h
    rw [isSealed_cons_of_ne hc, hstop, ih hrest]
    rfl

/-- Blanks are sealed against characters that are not blank. -/
theorem isSealed_of_isBlank (hstop : ∀ c, stop c = true → isBlank c = false)
    (h : ∀ c ∈ text, isBlank c = true) : isSealed stop text = true := by
  refine isSealed_of_forall fun c hc => ⟨?_, ?_⟩
  · rintro rfl
    exact absurd (h _ hc) (by decide)
  · cases hstopc : stop c with
    | false => rfl
    | true => exact absurd (h c hc) (by simp [hstop c hstopc])

end UmlSketch.Text
