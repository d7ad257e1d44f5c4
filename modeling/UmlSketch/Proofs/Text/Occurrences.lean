import Mathlib.Data.List.Infix
import UmlSketch.Proofs.Text.Splitting

/-! # Occurrences of a separator
Splitting looks for a separator from the left. Behind an occurrence that it finds, escaped or not, it
goes on where this one ends, so what it finds does not overlap (`Text.IsFoundAt`). The parts, joined
again, are the text, and the cuts between them are the occurrences that are found and not escaped
(`Text.mem_cuts_splitUnescaped`). For a separator that can overlap itself these need not be all that are
not escaped: one that begins inside an escaped occurrence is missed (`Text.splitsAtUnescaped_iff`). -/

namespace UmlSketch.Text

/-! ## What is found -/

/-- Whether a separator **occurs** at a position of a text. -/
def OccursAt (separator text : Text) (position : Nat) : Prop := separator <+: text.drop position

instance (separator text : Text) (position : Nat) : Decidable (OccursAt separator text position) :=
  inferInstanceAs (Decidable (_ <+: _))

/-- Whether an occurrence is **found** when a text is searched from the left: no earlier one that is
found reaches over its start. -/
def IsFoundAt (separator text : Text) (position : Nat) : Prop :=
  OccursAt separator text position ∧
    ∀ earlier, earlier < position → position < earlier + separator.length →
      ¬ IsFoundAt separator text earlier
termination_by position

/-- Whether a text is **cut** at a position: a separator is found there, and it is not escaped. -/
def IsCutAt (separator text : Text) (position : Nat) : Prop :=
  IsFoundAt separator text position ∧ isEscapedAt text position = false

/-- Whether no occurrence that is found reaches over a position, so that the search may start there. -/
def IsClearAt (separator text : Text) (position : Nat) : Prop :=
  ∀ earlier, earlier < position → IsFoundAt separator text earlier →
    earlier + separator.length ≤ position

variable {separator text before rest : Text} {position : Nat}

theorem IsFoundAt.occursAt (h : IsFoundAt separator text position) :
    OccursAt separator text position := by
  rw [IsFoundAt] at h
  exact h.1

/-- An occurrence lies inside the text. -/
theorem OccursAt.add_length_le (hseparator : separator ≠ []) (h : OccursAt separator text position) :
    position + separator.length ≤ text.length := by
  have hlength := h.length_le
  have hpos := List.length_pos_of_ne_nil hseparator
  rw [List.length_drop] at hlength
  omega

/-- Two occurrences that are found do not overlap. -/
theorem IsFoundAt.add_length_le {later : Nat} (h : IsFoundAt separator text position)
    (hlater : IsFoundAt separator text later) (hlt : position < later) :
    position + separator.length ≤ later := by
  rw [IsFoundAt] at hlater
  by_contra hover
  exact hlater.2 position hlt (by omega) h

/-- An occurrence that is not found begins inside one that is. -/
theorem OccursAt.isFoundAt_or (h : OccursAt separator text position) :
    IsFoundAt separator text position ∨
      ∃ earlier, IsFoundAt separator text earlier ∧ earlier < position ∧
        position < earlier + separator.length := by
  by_cases hfound : IsFoundAt separator text position
  · exact .inl hfound
  · rw [IsFoundAt] at hfound
    push Not at hfound
    obtain ⟨earlier, hlt, hover, hearlier⟩ := hfound h
    exact .inr ⟨earlier, hearlier, hlt, hover⟩

theorem isClearAt_zero : IsClearAt separator text 0 := by
  intro earlier hlt
  omega

/-- Where the search may start, an occurrence is found. -/
theorem IsClearAt.isFoundAt (h : IsClearAt separator text position)
    (hoccurs : OccursAt separator text position) : IsFoundAt separator text position := by
  rw [IsFoundAt]
  refine ⟨hoccurs, ?_⟩
  intro earlier hlt hover hearlier
  have hend := h earlier hlt hearlier
  omega

/-- Over a character that starts no occurrence the search goes on behind it. -/
theorem IsClearAt.succ (h : IsClearAt separator text position)
    (hnone : ¬ OccursAt separator text position) : IsClearAt separator text (position + 1) := by
  intro earlier hlt hearlier
  by_cases heq : earlier = position
  · exact absurd (heq ▸ hearlier.occursAt) hnone
  · have hend := h earlier (by omega) hearlier
    omega

/-- Behind an occurrence that is found the search goes on where this ends. -/
theorem IsClearAt.add_length (h : IsClearAt separator text position)
    (hfound : IsFoundAt separator text position) :
    IsClearAt separator text (position + separator.length) := by
  intro earlier hlt hearlier
  rcases Nat.lt_trichotomy earlier position with hbefore | rfl | hbehind
  · have hend := h earlier hbefore hearlier
    omega
  · exact le_rfl
  · have hend := hfound.add_length_le hearlier hbehind
    omega

/-- A single character is found wherever it occurs. -/
theorem OccursAt.isFoundAt_singleton {c : Char} (h : OccursAt [c] text position) :
    IsFoundAt [c] text position := by
  rw [IsFoundAt]
  refine ⟨h, ?_⟩
  intro earlier hlt hover
  rw [List.length_singleton] at hover
  omega

/-- Where a separator cuts a text, its first character alone would do so. -/
theorem IsCutAt.head {c : Char} (h : IsCutAt (c :: separator) text position) :
    IsCutAt [c] text position := by
  have hhead : [c] <+: c :: separator := List.cons_prefix_cons.mpr ⟨rfl, List.nil_prefix⟩
  exact ⟨OccursAt.isFoundAt_singleton (hhead.trans h.1.occursAt), h.2⟩

/-- From an occurrence that is found on, a text is cut there, if it is not escaped, and behind it. -/
theorem IsFoundAt.isCutAt_iff (h : IsFoundAt separator text position) {cut : Nat} :
    position ≤ cut ∧ IsCutAt separator text cut ↔
      (cut = position ∧ isEscapedAt text position = false) ∨
        (position + separator.length ≤ cut ∧ IsCutAt separator text cut) := by
  constructor
  · rintro ⟨hle, hcut⟩
    by_cases heq : cut = position
    · exact .inl ⟨heq, heq ▸ hcut.2⟩
    · exact .inr ⟨h.add_length_le hcut.1 (by omega), hcut⟩
  · rintro (⟨rfl, hescaped⟩ | ⟨hle, hcut⟩)
    · exact ⟨le_rfl, h, hescaped⟩
    · exact ⟨by omega, hcut⟩

/-- From a position where no separator occurs on, a text is cut behind it. -/
theorem isCutAt_iff_of_not_occursAt (h : ¬ OccursAt separator text position) {cut : Nat} :
    position ≤ cut ∧ IsCutAt separator text cut ↔
      position + 1 ≤ cut ∧ IsCutAt separator text cut := by
  constructor
  · rintro ⟨hle, hcut⟩
    refine ⟨Nat.lt_of_le_of_ne hle ?_, hcut⟩
    rintro rfl
    exact h hcut.1.occursAt
  · rintro ⟨hle, hcut⟩
    exact ⟨by omega, hcut⟩

/-! ## Parts with their places -/

/-- The parts of a text, each with the position where it starts. -/
def places (separator : Text) (start : Nat) : List Text → List (Nat × Text)
  | [] => []
  | part :: others =>
    (start, part) :: places separator (start + part.length + separator.length) others

/-- The positions of the separators between the parts of a text. -/
def cuts (separator : Text) (start : Nat) : List Text → List Nat
  | [] | [_] => []
  | part :: other :: others =>
    (start + part.length) ::
      cuts separator (start + part.length + separator.length) (other :: others)

/-- Whether the characters from one position up to another lie in one part of a text. -/
def LieInPart (parts : List (Nat × Text)) (first last : Nat) : Prop :=
  ∃ place ∈ parts, place.1 ≤ first ∧ last ≤ place.1 + place.2.length

variable {parts : List Text} {start : Nat}

theorem cuts_cons (part : Text) (hparts : parts ≠ []) :
    cuts separator start (part :: parts) =
      (start + part.length) :: cuts separator (start + part.length + separator.length) parts := by
  cases parts with
  | nil => exact absurd rfl hparts
  | cons other others => rfl

/-- A text in front of the first part moves the cuts. -/
theorem cuts_foldr_consFirst (passed : Text) (hparts : parts ≠ []) :
    cuts separator start (passed.foldr consFirst parts) =
      cuts separator (start + passed.length) parts := by
  obtain ⟨first, others, rfl⟩ := List.exists_cons_of_ne_nil hparts
  rw [foldr_consFirst]
  cases others with
  | nil => rfl
  | cons other others => simp only [cuts, List.length_append, Nat.add_assoc]

/-- There are cuts exactly if there are several parts. -/
theorem one_lt_length_iff (separator : Text) (start : Nat) (parts : List Text) :
    1 < parts.length ↔ ∃ cut, cut ∈ cuts separator start parts := by
  match parts with
  | [] | [_] => simp [cuts]
  | part :: other :: others => simp [cuts]

/-- There is one cut exactly if there are two parts. -/
theorem exists_eq_pair_iff (hseparator : separator ≠ []) (start : Nat) (parts : List Text) :
    (∃ first second, parts = [first, second]) ↔ ∃! cut, cut ∈ cuts separator start parts := by
  constructor
  · rintro ⟨first, second, rfl⟩
    exact ⟨start + first.length, by simp [cuts], fun cut hcut => by simpa [cuts] using hcut⟩
  · rintro ⟨cut, hcut, hunique⟩
    match parts with
    | [] | [_] => simp [cuts] at hcut
    | [first, second] => exact ⟨first, second, rfl⟩
    | first :: second :: third :: others =>
      -- The second cut stands behind the first one.
      have hfirst := hunique (start + first.length) (by simp [cuts])
      have hsecond := hunique (start + first.length + separator.length + second.length)
        (by simp [cuts])
      have hpos := List.length_pos_of_ne_nil hseparator
      omega

theorem le_of_mem_cuts {cut : Nat} (h : cut ∈ cuts separator start parts) : start ≤ cut := by
  induction parts generalizing start with
  | nil => simp [cuts] at h
  | cons part others ih =>
    cases others with
    | nil => simp [cuts] at h
    | cons other others =>
      rcases List.mem_cons.mp h with rfl | h
      · omega
      · have hle := ih h
        omega

/-- Characters lie in one part exactly if they belong to the text and no separator has one of them. -/
theorem lieInPart_places_iff (hparts : parts ≠ []) {first last : Nat} :
    LieInPart (places separator start parts) first last ↔
      start ≤ first ∧ last ≤ start + (join separator parts).length ∧
        ∀ cut ∈ cuts separator start parts, cut + separator.length ≤ first ∨ last ≤ cut := by
  induction parts generalizing start with
  | nil => exact absurd rfl hparts
  | cons part others ih =>
    cases others with
    | nil => simp [LieInPart, places, cuts]
    | cons other others =>
      have hothers := @ih (start + part.length + separator.length) (by simp)
      have hle : ∀ cut ∈ cuts separator (start + part.length + separator.length) (other :: others),
          start + part.length + separator.length ≤ cut := fun cut hcut => le_of_mem_cuts hcut
      have hplaces : LieInPart (places separator start (part :: other :: others)) first last ↔
          (start ≤ first ∧ last ≤ start + part.length) ∨
            LieInPart (places separator (start + part.length + separator.length) (other :: others))
              first last := by
        unfold LieInPart
        rw [places, List.exists_mem_cons_iff]
      rw [hplaces, hothers, cuts_cons part (by simp), List.forall_mem_cons, join_cons_cons,
        List.length_append, List.length_append]
      constructor
      · rintro (⟨hstart, hlast⟩ | ⟨hstart, hlast, hcuts⟩)
        · -- The part ends where the first separator starts, and the others follow it.
          refine ⟨hstart, by omega, by omega, fun cut hcut => ?_⟩
          have hcut := hle cut hcut
          omega
        · exact ⟨by omega, by omega, by omega, hcuts⟩
      · rintro ⟨hstart, hlast, hcut | hcut, hcuts⟩
        · exact .inr ⟨by omega, by omega, hcuts⟩
        · exact .inl ⟨hstart, by omega⟩

/-! ## Where a text is cut -/

/-- **The parts of a text, joined again, are the text.** -/
theorem join_splitUnescapedFrom (hseparator : separator ≠ []) (escaped : Bool) (text : Text) :
    join separator (splitUnescapedFrom separator escaped 0 0 text) = text := by
  have hpassed (passed : Text) {parts : List Text} (hparts : parts ≠ []) :
      join separator (passed.foldr consFirst parts) = passed ++ join separator parts := by
    obtain ⟨first, others, rfl⟩ := List.exists_cons_of_ne_nil hparts
    rw [foldr_consFirst]
    cases others with
    | nil => simp
    | cons other others => simp
  induction text using scan_induction hseparator generalizing escaped with
  | nil => rw [splitUnescapedFrom_nil hseparator, join_singleton]
  | occurrence rest ih =>
    have hne := splitUnescapedFrom_ne_nil separator
    cases escaped with
    | false =>
      obtain ⟨first, others, hparts⟩ := List.exists_cons_of_ne_nil (hne _ 0 0 rest)
      rw [splitUnescapedFrom_separator_false hseparator, hparts, join_cons_cons, ← hparts, ih,
        List.nil_append]
    | true => rw [splitUnescapedFrom_separator_true hseparator, hpassed _ (hne _ _ _ _), ih]
  | char c rest hnone ih =>
    have hchar := hpassed [c] (splitUnescapedFrom_ne_nil separator (escapesNext escaped c) 0 0 rest)
    rw [List.foldr_cons, List.foldr_nil, ih] at hchar
    rw [splitUnescapedFrom_char hnone, hchar, List.singleton_append]

theorem occursAt_length_iff : OccursAt separator (before ++ rest) before.length ↔ separator <+: rest := by
  rw [OccursAt, List.drop_left]

theorem isEscapedAt_length : isEscapedAt (before ++ rest) before.length = endsEscaping before := by
  rw [isEscapedAt, List.take_left]

/-- The rest of a text is cut where the search, started at it, finds an occurrence that is not escaped. -/
theorem mem_cuts_splitUnescapedFrom (hseparator : separator ≠ []) {cut : Nat}
    (hclear : IsClearAt separator (before ++ rest) before.length) :
    cut ∈ cuts separator before.length
        (splitUnescapedFrom separator (endsEscaping before) 0 0 rest) ↔
      before.length ≤ cut ∧ IsCutAt separator (before ++ rest) cut := by
  -- What is read goes from the rest to what stands before it.
  induction rest using scan_induction hseparator generalizing before with
  | nil =>
    have hnone : ¬ (before.length ≤ cut ∧ IsCutAt separator (before ++ []) cut) := by
      rintro ⟨hle, hcut⟩
      have hend := hcut.1.occursAt.add_length_le hseparator
      have hpos := List.length_pos_of_ne_nil hseparator
      rw [List.append_nil] at hend
      omega
    rw [splitUnescapedFrom_nil hseparator]
    simpa [cuts] using hnone
  | occurrence rest ih =>
    have hfound : IsFoundAt separator (before ++ (separator ++ rest)) before.length :=
      hclear.isFoundAt (occursAt_length_iff.mpr (List.prefix_append separator rest))
    have hbehind := hclear.add_length hfound
    rw [← List.length_append, ← List.append_assoc] at hbehind
    have hrest := ih hbehind
    have hne := splitUnescapedFrom_ne_nil separator (endsEscaping (before ++ separator)) 0 0 rest
    rw [endsEscaping_append] at hne hrest
    rw [List.length_append, List.append_assoc] at hrest
    rw [hfound.isCutAt_iff, isEscapedAt_length, ← hrest]
    -- An escaped occurrence belongs to the first part, another one ends it.
    cases hstate : endsEscaping before with
    | false =>
      rw [hstate] at hne
      rw [splitUnescapedFrom_separator_false hseparator, cuts_cons _ hne, List.mem_cons]
      simp
    | true =>
      rw [hstate] at hne
      rw [splitUnescapedFrom_separator_true hseparator, cuts_foldr_consFirst _ hne]
      simp
  | char c rest hnone ih =>
    have hnone' : ¬ OccursAt separator (before ++ c :: rest) before.length :=
      mt occursAt_length_iff.mp hnone
    have hbehind := hclear.succ hnone'
    have hchar := @cuts_foldr_consFirst separator
      (splitUnescapedFrom separator (escapesNext (endsEscaping before) c) 0 0 rest) before.length [c]
      (splitUnescapedFrom_ne_nil separator _ 0 0 rest)
    rw [List.foldr_cons, List.foldr_nil] at hchar
    rw [← List.singleton_append, ← List.append_assoc] at hbehind
    have hrest := @ih (before ++ [c]) (by rwa [List.length_append])
    rw [endsEscaping_concat, List.length_append, List.append_assoc, List.singleton_append] at hrest
    rw [isCutAt_iff_of_not_occursAt hnone', splitUnescapedFrom_char hnone, hchar, hrest,
      List.length_singleton]

/-- **A text is cut at the occurrences that are found and not escaped**, and nowhere else. -/
theorem mem_cuts_splitUnescaped (hseparator : separator ≠ []) {cut : Nat} :
    cut ∈ cuts separator 0 (splitUnescaped separator text) ↔ IsCutAt separator text cut := by
  have hcuts := @mem_cuts_splitUnescapedFrom separator [] text hseparator cut isClearAt_zero
  simpa [splitUnescaped] using hcuts

/-- A text is split in several parts exactly if it is cut somewhere. -/
theorem containsUnescaped_iff_exists_isCutAt (hseparator : separator ≠ []) :
    containsUnescaped separator text = true ↔ ∃ position, IsCutAt separator text position := by
  rw [containsUnescaped, decide_eq_true_iff, one_lt_length_iff separator 0]
  exact exists_congr fun cut => mem_cuts_splitUnescaped hseparator

/-- A text is split in two parts exactly if it is cut once. -/
theorem exists_splitUnescaped_eq_pair_iff (hseparator : separator ≠ []) :
    (∃ left right, splitUnescaped separator text = [left, right]) ↔
      ∃! position, IsCutAt separator text position := by
  rw [exists_eq_pair_iff hseparator 0]
  exact existsUnique_congr fun cut => mem_cuts_splitUnescaped hseparator

/-! ## What is missed -/

/-- Whether an occurrence lies **inside a part** of the text, from its first character to its last. -/
def LiesInPart (separator text : Text) (position : Nat) : Prop :=
  LieInPart (places separator 0 (splitUnescaped separator text)) position
    (position + separator.length)

/-- Whether a text is **split at what is not escaped**: the parts make up the text, no occurrence of the
separator in them would have had to cut it, and one is reported exactly if there is one. -/
structure SplitsAtUnescaped (separator text : Text) : Prop where
  /-- The parts, joined again, are the text. -/
  join : join separator (splitUnescaped separator text) = text
  /-- An occurrence inside a part is escaped. -/
  parts : ∀ position, OccursAt separator text position → isEscapedAt text position = false →
    ¬ LiesInPart separator text position
  /-- An occurrence that is not escaped is reported. -/
  contains : containsUnescaped separator text = true ↔
    ∃ position, OccursAt separator text position ∧ isEscapedAt text position = false

/-- Whether an occurrence that is not escaped is **missed**: it begins inside an escaped one that is found,
and the text is not cut within it. -/
structure IsMissedAt (separator text : Text) (position : Nat) : Prop where
  /-- The separator occurs. -/
  occursAt : OccursAt separator text position
  /-- It is not escaped. -/
  isEscapedAt_eq : isEscapedAt text position = false
  /-- The search has passed over its start with an escaped occurrence. -/
  passed : ∃ earlier, IsFoundAt separator text earlier ∧ isEscapedAt text earlier = true ∧
    earlier < position ∧ position < earlier + separator.length
  /-- No cut has a character in common with it. -/
  uncut : ∀ cut, IsCutAt separator text cut →
    cut + separator.length ≤ position ∨ position + separator.length ≤ cut

/-- Characters lie in a part exactly if they belong to the text and no cut has one of them. -/
theorem liesInPart_iff (hseparator : separator ≠ []) :
    LiesInPart separator text position ↔
      position + separator.length ≤ text.length ∧ ∀ cut, IsCutAt separator text cut →
        cut + separator.length ≤ position ∨ position + separator.length ≤ cut := by
  have hne : splitUnescaped separator text ≠ [] := splitUnescapedFrom_ne_nil separator false 0 0 text
  have hjoin : join separator (splitUnescaped separator text) = text :=
    join_splitUnescapedFrom hseparator false text
  rw [LiesInPart, lieInPart_places_iff hne, hjoin]
  simp only [mem_cuts_splitUnescaped hseparator, Nat.zero_le, Nat.zero_add, true_and]

/-- An occurrence that is not escaped lies in a part exactly if it is missed. -/
theorem liesInPart_iff_isMissedAt (hseparator : separator ≠ [])
    (hoccurs : OccursAt separator text position) (hescaped : isEscapedAt text position = false) :
    LiesInPart separator text position ↔ IsMissedAt separator text position := by
  have hpos := List.length_pos_of_ne_nil hseparator
  rw [liesInPart_iff hseparator]
  constructor
  · rintro ⟨-, huncut⟩
    refine ⟨hoccurs, hescaped, ?_, huncut⟩
    -- Were it found, it would be a cut itself, and so would be what it begins in without an escape.
    rcases hoccurs.isFoundAt_or with hfound | ⟨earlier, hfound, hlt, hover⟩
    · have hself := huncut position ⟨hfound, hescaped⟩
      omega
    · refine ⟨earlier, hfound, ?_, hlt, hover⟩
      by_contra hearlier
      have hcut := huncut earlier ⟨hfound, Bool.eq_false_iff.mpr hearlier⟩
      omega
  · intro hmissed
    exact ⟨hoccurs.add_length_le hseparator, hmissed.uncut⟩

/-- Whether a text is **split at what is found**: the parts make up the text, the occurrences that are
found and not escaped are all that cuts it, and of the occurrences that are not escaped the parts hold
those that are missed. -/
structure SplitsAtFound (separator text : Text) : Prop where
  /-- The parts, joined again, are the text. -/
  join : join separator (splitUnescaped separator text) = text
  /-- Between the parts stand the occurrences that are found and not escaped. -/
  cuts : ∀ position, position ∈ cuts separator 0 (splitUnescaped separator text) ↔
    IsFoundAt separator text position ∧ isEscapedAt text position = false
  /-- One is reported exactly if there is one. -/
  contains : containsUnescaped separator text = true ↔
    ∃ position, IsFoundAt separator text position ∧ isEscapedAt text position = false
  /-- An occurrence that is not escaped lies inside a part exactly if it is missed. -/
  parts : ∀ position, OccursAt separator text position → isEscapedAt text position = false →
    (LiesInPart separator text position ↔ IsMissedAt separator text position)

/-- **A text is split at what is found.** -/
theorem splitsAtFound (hseparator : separator ≠ []) (text : Text) : SplitsAtFound separator text where
  join := join_splitUnescapedFrom hseparator false text
  cuts _ := mem_cuts_splitUnescaped hseparator
  contains := containsUnescaped_iff_exists_isCutAt hseparator
  parts _ := liesInPart_iff_isMissedAt hseparator

/-- A text is split at what is not escaped if nothing is missed. -/
theorem SplitsAtFound.splitsAtUnescaped (h : SplitsAtFound separator text)
    (hseparator : separator ≠ []) (hnone : ∀ position, ¬ IsMissedAt separator text position) :
    SplitsAtUnescaped separator text where
  join := h.join
  parts := by
    intro position hoccurs hescaped hlies
    exact hnone position ((h.parts position hoccurs hescaped).mp hlies)
  contains := by
    rw [h.contains]
    constructor
    · rintro ⟨position, hfound, hescaped⟩
      exact ⟨position, hfound.occursAt, hescaped⟩
    · rintro ⟨position, hoccurs, hescaped⟩
      -- A text that is not cut is its only part, with the occurrence inside.
      by_contra huncut
      refine hnone position ((h.parts position hoccurs hescaped).mp ((liesInPart_iff hseparator).mpr ?_))
      exact ⟨hoccurs.add_length_le hseparator, fun cut hcut => absurd ⟨cut, hcut⟩ huncut⟩

/-- Whether a text **overlaps itself**: it starts with what is left of it without some of its first
characters, but not all. -/
def OverlapsItself (text : Text) : Prop :=
  ∃ shift, 0 < shift ∧ shift < text.length ∧ text.drop shift <+: text

/-- A separator that does not overlap itself is never missed. -/
theorem IsMissedAt.overlapsItself (h : IsMissedAt separator text position) :
    OverlapsItself separator := by
  obtain ⟨earlier, hfound, -, hlt, hover⟩ := h.passed
  refine ⟨position - earlier, by omega, by omega, ?_⟩
  -- Both what is left of the earlier occurrence and the later one start at the same position.
  have hrest : separator.drop (position - earlier) <+: text.drop position := by
    have hdrop := List.IsPrefix.drop hfound.occursAt (position - earlier)
    rwa [List.drop_drop, Nat.add_sub_cancel' hlt.le] at hdrop
  refine List.prefix_of_prefix_length_le hrest h.occursAt ?_
  rw [List.length_drop]
  omega

/-- **A text is split at the occurrences that are found and not escaped.** They are all that are not
escaped, unless one of these begins inside an escaped one and has no character in common with a cut; for a
separator that does not overlap itself, they always are. -/
theorem splitsAtUnescaped_iff (hseparator : separator ≠ []) (text : Text) :
    SplitsAtFound separator text ∧
      (SplitsAtUnescaped separator text ↔ ∀ position, ¬ IsMissedAt separator text position) ∧
      (¬ OverlapsItself separator → SplitsAtUnescaped separator text) := by
  have hfound := splitsAtFound hseparator text
  refine ⟨hfound, ⟨?_, hfound.splitsAtUnescaped hseparator⟩, ?_⟩
  · intro h position hmissed
    have hlies := (hfound.parts position hmissed.occursAt hmissed.isEscapedAt_eq).mpr hmissed
    exact h.parts position hmissed.occursAt hmissed.isEscapedAt_eq hlies
  · intro hoverlap
    exact hfound.splitsAtUnescaped hseparator fun _ hmissed => hoverlap hmissed.overlapsItself

/-- The separator `-.-` overlaps itself. Of its three occurrences in this text the first is escaped and the
second begins inside it, but the cut at the third takes a part of the second. -/
theorem splitsAtUnescaped_iff_chain :
    let separator := "-.-".toList
    let text := "a\\-.-.-.-b".toList
    separator ≠ [] ∧ splitUnescaped separator text = ["a\\-.-.".toList, "b".toList] ∧
      SplitsAtFound separator text ∧
      (SplitsAtUnescaped separator text ↔ ∀ position, ¬ IsMissedAt separator text position) ∧
      (¬ OverlapsItself separator → SplitsAtUnescaped separator text) := by
  intro separator text
  have hseparator : separator ≠ [] := by decide
  exact ⟨hseparator, by decide, splitsAtUnescaped_iff hseparator text⟩

/-- **An occurrence that is not escaped can be missed**: behind the escaped dash of this text `-.-` stands
free, and the text is not split. -/
theorem not_splitsAtUnescaped :
    OccursAt "-.-".toList "\\-.-.-".toList 3 ∧ isEscapedAt "\\-.-.-".toList 3 = false ∧
      splitUnescaped "-.-".toList "\\-.-.-".toList = ["\\-.-.-".toList] ∧
      ¬ SplitsAtUnescaped "-.-".toList "\\-.-.-".toList := by
  have hoccurs : OccursAt "-.-".toList "\\-.-.-".toList 3 := by decide
  have hescaped : isEscapedAt "\\-.-.-".toList 3 = false := by decide
  refine ⟨hoccurs, hescaped, by decide, fun h => ?_⟩
  have hcontains := h.contains.mpr ⟨3, hoccurs, hescaped⟩
  exact absurd hcontains (by decide)

end UmlSketch.Text
