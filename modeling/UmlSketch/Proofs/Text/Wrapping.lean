import Mathlib.Data.List.Chain
import UmlSketch.Proofs.Text.Breaks

/-! # Lines of a wrapped text
A text that reaches the width is broken at the last space up to the width, or else at the first space
behind it; the space at the start of a text is never taken. What stands behind the break is shorter, so
wrapping it in turn comes to an end. `Text.IsBreak` tells where a text is broken, and everything about
the lines follows from it: none is longer than the width unless there is no space to break it at, and
none is broken while the first word of the next line still had room (`Text.isWrapping_wordWrap`). -/

namespace UmlSketch.Text

variable {text : Text} {width position : Nat}

/-! ## Where a text is broken -/

/-- A test that is passed by the last number of a range is passed by none behind it. -/
theorem find?_reverse_range' {test : Nat → Bool} {start count last : Nat}
    (h : (List.range' start count).reverse.find? test = some last) :
    ∀ later, last < later → later < start + count → test later = false := by
  obtain ⟨-, behind, before, hrange, hbehind⟩ := List.find?_eq_some_iff_append.mp h
  have hdescending : (behind ++ last :: before).Pairwise (· > ·) := by
    rw [← hrange]
    exact List.pairwise_reverse.mpr List.pairwise_lt_range'
  have hstart := List.mem_range'_1.mp (List.mem_reverse.mp (List.mem_of_find?_eq_some h))
  intro later hlater hbound
  have hmem : later ∈ behind ++ last :: before := by
    rw [← hrange]
    exact List.mem_reverse.mpr (List.mem_range'_1.mpr ⟨by omega, hbound⟩)
  rcases List.mem_append.mp hmem with hmem | hmem
  · simpa using hbehind later hmem
  · -- The numbers that come after the last one in the reversed range are smaller.
    rcases List.mem_cons.mp hmem with rfl | hmem
    · exact absurd hlater (Nat.lt_irrefl _)
    · have hsmaller := List.rel_of_pairwise_cons (List.pairwise_append.mp hdescending).2.1 hmem
      exact absurd hlater (Nat.lt_asymm hsmaller)

/-- Whether a text may be **broken** at a position: at a space that is not its first character, with
no other space between it and the width, and if it lies beyond the width with no space before. -/
structure IsBreak (text : Text) (width position : Nat) : Prop where
  /-- There is a space at the position. -/
  space : text[position]? = some ' '
  /-- The position is not that of the first character. -/
  pos : 0 < position
  /-- Up to the width there is no space behind the position. -/
  last : ∀ later, position < later → later ≤ width → text[later]? ≠ some ' '
  /-- Beyond the width the position is that of the first space. -/
  first : width < position → ∀ earlier, 0 < earlier → earlier < position → text[earlier]? ≠ some ' '

theorem isBreak_of_breakPosition? (h : breakPosition? text width = some position) :
    IsBreak text width position := by
  have hspace := eq_space_of_breakPosition? h
  unfold breakPosition? at h
  rcases Option.or_eq_some_iff.mp h with hup | ⟨hnone, hbeyond⟩
  · have hrange := List.mem_range'_1.mp (List.mem_reverse.mp (List.mem_of_find?_eq_some hup))
    refine ⟨hspace, hrange.1, fun later hlater hwidth => ?_, fun hwidth => ?_⟩
    · exact of_decide_eq_false (find?_reverse_range' hup later hlater (by omega))
    · omega
  · obtain ⟨-, hrange, hfirst⟩ := List.find?_range'_eq_some.mp hbeyond
    have hposition := List.mem_range'_1.mp hrange
    refine ⟨hspace, by omega, fun later hlater hwidth => ?_, fun _ earlier hpos hearlier => ?_⟩
    · omega
    · by_cases hwidth : earlier ≤ width
      · -- Up to the width no space was found at all.
        have hmem : earlier ∈ (List.range' 1 width).reverse :=
          List.mem_reverse.mpr (List.mem_range'_1.mpr ⟨hpos, by omega⟩)
        simpa using List.find?_eq_none.mp hnone earlier hmem
      · simpa using hfirst earlier (by omega) hearlier

/-- Behind its first character a text has no space exactly if there is none at a later position. -/
theorem space_not_mem_tail_iff :
    ' ' ∉ text.tail ↔ ∀ later, 0 < later → text[later]? ≠ some ' ' := by
  rw [List.mem_iff_getElem?, not_exists]
  constructor
  · intro h later hpos
    obtain ⟨before, rfl⟩ := Nat.exists_eq_add_one.mpr hpos
    rw [← List.getElem?_tail]
    exact h before
  · intro h before
    rw [List.getElem?_tail]
    exact h (before + 1) before.succ_pos

/-- A text that is not broken has no space behind its first character. -/
theorem space_not_mem_tail_of_breakPosition? (h : breakPosition? text width = none) :
    ' ' ∉ text.tail := by
  unfold breakPosition? at h
  obtain ⟨hup, hbeyond⟩ := Option.or_eq_none_iff.mp h
  rw [space_not_mem_tail_iff]
  intro later hpos hspace
  have hlt : later < text.length := (List.getElem?_eq_some_iff.mp hspace).1
  by_cases hwidth : later ≤ width
  · have hmem : later ∈ (List.range' 1 width).reverse :=
      List.mem_reverse.mpr (List.mem_range'_1.mpr ⟨hpos, by omega⟩)
    simpa [hspace] using List.find?_eq_none.mp hup later hmem
  · have hnot := List.find?_range'_eq_none.mp hbeyond later (by omega) (by omega)
    simp [hspace] at hnot

/-! ## Lines that fit and lines that are filled -/

/-- The **first word** of a line: what stands before its first space. -/
def firstWord (line : Text) : Text := line.takeWhile (· ≠ ' ')

/-- Whether a line **fits** into the width, or has no space that it could be broken at. -/
def Fits (width : Nat) (line : Text) : Prop := line.length ≤ width ∨ ' ' ∉ line.tail

/-- Whether a line is **filled**: with a space and the first word of the next line behind it, it would
reach the width. -/
def IsFilled (width : Nat) (line next : Text) : Prop :=
  width ≤ line.length + 1 + (firstWord next).length

/-- What stands behind a space is of no account for the first word. -/
theorem firstWord_append_space (line rest : Text) : firstWord (line ++ ' ' :: rest) = firstWord line := by
  rw [firstWord, List.takeWhile_append, firstWord]
  split
  · rename_i hwhole
    rw [List.takeWhile_cons_of_neg (by simp), List.append_nil,
      List.IsPrefix.eq_of_length (List.takeWhile_prefix _) hwhole]
  · rfl

/-- The first word of a text ends at a space or with the text. -/
theorem getElem?_length_firstWord (h : (firstWord text).length < text.length) :
    text[(firstWord text).length]? = some ' ' := by
  have hsplit : firstWord text ++ text.dropWhile (· ≠ ' ') = text := List.takeWhile_append_dropWhile
  have hstop := List.head?_dropWhile_not (fun c => decide (c ≠ ' ')) text
  cases hrest : text.dropWhile (· ≠ ' ') with
  | nil =>
    rw [hrest, List.append_nil] at hsplit
    rw [hsplit] at h
    exact absurd h (Nat.lt_irrefl _)
  | cons c after =>
    rw [hrest] at hsplit hstop
    have hc : c = ' ' := by simpa using hstop
    rw [hc] at hsplit
    calc text[(firstWord text).length]?
        = (firstWord text ++ ' ' :: after)[(firstWord text).length]? := by rw [hsplit]
      _ = some ' ' := by simp

namespace IsBreak

variable (h : IsBreak text width position)

include h

theorem lt_length : position < text.length := (List.getElem?_eq_some_iff.mp h.space).1

/-- The text is what stands before the space, the space, and what stands behind it. -/
theorem eq_append : text = text.take position ++ ' ' :: text.drop (position + 1) := by
  obtain ⟨hlt, hspace⟩ := List.getElem?_eq_some_iff.mp h.space
  rw [← hspace, ← List.drop_eq_getElem_cons hlt, List.take_append_drop]

/-- The line before the break fits. -/
theorem fits : Fits width (text.take position) := by
  by_cases hwidth : position ≤ width
  · left
    rw [List.length_take]
    omega
  · -- The break is the first one that could be made.
    right
    rw [space_not_mem_tail_iff]
    intro earlier hpos hspace
    rw [List.getElem?_take] at hspace
    split at hspace
    · exact h.first (by omega) earlier hpos (by assumption) hspace
    · cases hspace

/-- The line before the break is filled, whatever becomes of the rest. -/
theorem isFilled (hlong : width ≤ text.length) {next : Text}
    (hnext : firstWord next = firstWord (text.drop (position + 1))) :
    IsFilled width (text.take position) next := by
  have hlt := h.lt_length
  unfold IsFilled
  rw [hnext, List.length_take, Nat.min_eq_left (Nat.le_of_lt hlt)]
  by_contra hroom
  -- The first word of the rest ends within the width, hence at a space that would be a later break.
  have hend : (text.drop (position + 1))[(firstWord (text.drop (position + 1))).length]? = some ' ' := by
    apply getElem?_length_firstWord
    rw [List.length_drop]
    omega
  rw [List.getElem?_drop] at hend
  exact h.last _ (by omega) (by omega) hend

end IsBreak

/-! ## The lines -/

/-- The lines of a wrapped text are found as it is wrapped: a text that is short or cannot be broken is
its only line, and a text that is broken gives the line before the break and the lines of what stands
behind it. -/
theorem fields_wordWrap_induction {motive : Text → List Text → Prop}
    (short : ∀ text : Text, text.length < width → motive text [text])
    (unbroken : ∀ text : Text, ' ' ∉ text.tail → motive text [text])
    (broken : ∀ (text : Text) (position : Nat) (lines : List Text), IsBreak text width position →
      width ≤ text.length → motive (text.drop (position + 1)) lines →
        motive text (text.take position :: lines))
    (h : '\n' ∉ text) : motive text (fields '\n' (wordWrap text width)) := by
  fun_induction wordWrap text width with
  | case1 text hshort =>
    rw [fields_eq_singleton h]
    exact short text hshort
  | case2 text hlong hnone =>
    rw [fields_eq_singleton h]
    exact unbroken text (space_not_mem_tail_of_breakPosition? hnone)
  | case3 text hlong position hposition ih =>
    have hfront : '\n' ∉ text.take position := fun hmem => h (List.mem_of_mem_take hmem)
    have hrest : '\n' ∉ text.drop (position + 1) := fun hmem => h (List.mem_of_mem_drop hmem)
    rw [fields_of_not_mem hfront]
    exact broken text position _ (isBreak_of_breakPosition? hposition) (Nat.le_of_not_lt hlong)
      (ih hrest)

/-- Every line of a wrapped text fits. -/
theorem fits_of_mem_fields (h : '\n' ∉ text) :
    ∀ line ∈ fields '\n' (wordWrap text width), Fits width line := by
  refine fields_wordWrap_induction (motive := fun _ lines => ∀ line ∈ lines, Fits width line) ?_ ?_ ?_ h
  · intro text hshort
    exact List.forall_mem_singleton.mpr (Or.inl (Nat.le_of_lt hshort))
  · intro text hspace
    exact List.forall_mem_singleton.mpr (Or.inr hspace)
  · intro text position lines hbreak _ ih
    exact List.forall_mem_cons.mpr ⟨hbreak.fits, ih⟩

/-- Every line of a wrapped text that is followed by another is filled. -/
theorem isChain_isFilled (h : '\n' ∉ text) :
    (fields '\n' (wordWrap text width)).IsChain (IsFilled width) := by
  -- The lines behind a break start with the first word of what stands there.
  refine (fields_wordWrap_induction (motive := fun text lines =>
    (∀ line ∈ lines.head?, firstWord line = firstWord text) ∧ lines.IsChain (IsFilled width))
    ?_ ?_ ?_ h).2
  · rintro text -
    exact ⟨by rintro line ⟨⟩; rfl, List.isChain_singleton text⟩
  · rintro text -
    exact ⟨by rintro line ⟨⟩; rfl, List.isChain_singleton text⟩
  · rintro text position lines hbreak hlong ⟨hhead, hchain⟩
    constructor
    · rintro line ⟨⟩
      conv_rhs => rw [hbreak.eq_append]
      exact (firstWord_append_space _ _).symm
    · exact List.isChain_cons.mpr
        ⟨fun next hnext => hbreak.isFilled hlong (hhead next hnext), hchain⟩

/-! ## Wrapping -/

/-- Whether a text is **wrapped** into another for a width. -/
structure IsWrapping (text : Text) (width : Nat) (wrapped : Text) : Prop where
  /-- The text is changed in nothing but that some of its spaces are turned into line breaks. -/
  breaksInto : text.BreaksInto wrapped
  /-- A text that does not reach the width is kept. -/
  eq_of_lt : text.length < width → wrapped = text
  /-- Every line fits. -/
  fits : ∀ line ∈ fields '\n' wrapped, Fits width line
  /-- Every line that is followed by another is filled. -/
  filled : (fields '\n' wrapped).IsChain (IsFilled width)

/-- A text that does not reach the width is kept. -/
theorem wordWrap_of_length_lt (h : text.length < width) : wordWrap text width = text := by
  rw [wordWrap, if_pos h]

/-- **Wrapping a text of one line**: only spaces are turned into line breaks, a short text is kept, every
line fits into the width or has no space to break it at, and no line is broken while the first word of
the next one still had room. -/
theorem isWrapping_wordWrap {text : Text} (h : '\n' ∉ text) (width : Nat) :
    IsWrapping text width (wordWrap text width) where
  breaksInto := breaksInto_wordWrap text width
  eq_of_lt := wordWrap_of_length_lt
  fits := fits_of_mem_fields h
  filled := isChain_isFilled h

/-- A text with a run of spaces and a word that is longer than the width. -/
theorem isWrapping_wordWrap_long_word :
    '\n' ∉ " ab  cd uninterrupted ef gh".toList ∧
      wordWrap " ab  cd uninterrupted ef gh".toList 6 = " ab \ncd\nuninterrupted\nef gh".toList ∧
      IsWrapping " ab  cd uninterrupted ef gh".toList 6
        (wordWrap " ab  cd uninterrupted ef gh".toList 6) :=
  ⟨by decide, by decide +kernel, isWrapping_wordWrap (by decide) 6⟩

end UmlSketch.Text
