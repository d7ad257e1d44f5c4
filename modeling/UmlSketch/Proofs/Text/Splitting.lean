import UmlSketch.Proofs.Text.Marks

/-! # Splitting at a separator
`Text.splitUnescapedFrom` counts how many characters it has still to pass over or to drop. Told by
whole occurrences of the separator, a text is split by four rules: nothing is left, a separator cuts,
an escaped separator is passed over, or a character goes to the part under way. The escaped marks of a
text are those of its parts, and a separator that never occurs escaped splits the text with hidden
marks at the same places. -/

namespace UmlSketch.Text

variable {separator : Text}

/-! ## The rules of splitting -/

/-- A text is read from the left in steps: over a separator where one occurs, else over a character. -/
@[elab_as_elim]
theorem scan_induction (hseparator : separator ≠ []) {motive : Text → Prop} (nil : motive [])
    (occurrence : ∀ rest, motive rest → motive (separator ++ rest))
    (char : ∀ c rest, ¬ separator <+: c :: rest → motive rest → motive (c :: rest)) (text : Text) :
    motive text := by
  by_cases hstart : separator <+: text
  · obtain ⟨rest, rfl⟩ := hstart
    exact occurrence rest (scan_induction hseparator nil occurrence char rest)
  · cases text with
    | nil => exact nil
    | cons c rest => exact char c rest hstart (scan_induction hseparator nil occurrence char rest)
termination_by text.length
decreasing_by
  · rename_i heq
    have hlength := List.length_pos_of_ne_nil hseparator
    rw [← heq, List.length_append]
    omega
  · simp

/-- There is always a part. -/
theorem splitUnescapedFrom_ne_nil (separator : Text) (escaped : Bool) (passing dropping : Nat)
    (text : Text) : splitUnescapedFrom separator escaped passing dropping text ≠ [] := by
  induction text generalizing escaped passing dropping with
  | nil =>
    unfold splitUnescapedFrom
    split <;> simp
  | cons c rest ih =>
    have hconsFirst (parts : List Text) : consFirst c parts ≠ [] := by
      cases parts <;> simp [consFirst]
    simp only [splitUnescapedFrom]
    split
    · simp
    · split
      · exact hconsFirst _
      · exact ih _ _ _

theorem splitUnescapedFrom_nil (hseparator : separator ≠ []) (escaped : Bool) :
    splitUnescapedFrom separator escaped 0 0 [] = [[]] := by
  simp [splitUnescapedFrom, hseparator]

/-- A character that starts no separator goes to the first part. -/
theorem splitUnescapedFrom_char {c : Char} {rest : Text} (h : ¬ separator <+: c :: rest)
    (escaped : Bool) :
    splitUnescapedFrom separator escaped 0 0 (c :: rest) =
      consFirst c (splitUnescapedFrom separator (escapesNext escaped c) 0 0 rest) := by
  have hfound : separator.isPrefixOf (c :: rest) = false := by
    rw [Bool.eq_false_iff]
    exact fun hstart => h (List.isPrefixOf_iff_prefix.mp hstart)
  simp [splitUnescapedFrom, hfound]

/-- The rest of a separator that has cut the text is dropped. -/
theorem splitUnescapedFrom_drop (separator : Text) (escaped : Bool) (dropped rest : Text) :
    splitUnescapedFrom separator escaped dropped.length dropped.length (dropped ++ rest) =
      splitUnescapedFrom separator (dropped.foldl escapesNext escaped) 0 0 rest := by
  induction dropped generalizing escaped with
  | nil => rfl
  | cons c dropped ih =>
    rw [List.foldl_cons, ← ih, List.cons_append, splitUnescapedFrom]
    simp

/-- The rest of an escaped separator goes to the first part. -/
theorem splitUnescapedFrom_pass (separator : Text) (escaped : Bool) (passed rest : Text) :
    splitUnescapedFrom separator escaped passed.length 0 (passed ++ rest) =
      passed.foldr consFirst
        (splitUnescapedFrom separator (passed.foldl escapesNext escaped) 0 0 rest) := by
  induction passed generalizing escaped with
  | nil => rfl
  | cons c passed ih =>
    rw [List.foldl_cons, List.foldr_cons, ← ih, List.cons_append, splitUnescapedFrom]
    simp

/-- A separator that is not escaped cuts the text. -/
theorem splitUnescapedFrom_separator_false (hseparator : separator ≠ []) (rest : Text) :
    splitUnescapedFrom separator false 0 0 (separator ++ rest) =
      [] :: splitUnescapedFrom separator (separator.foldl escapesNext false) 0 0 rest := by
  have hstart : separator.isPrefixOf (separator ++ rest) = true :=
    List.isPrefixOf_iff_prefix.mpr (List.prefix_append separator rest)
  cases hcons : separator with
  | nil => exact absurd hcons hseparator
  | cons c dropped =>
    rw [hcons, List.cons_append] at hstart
    have hrest := splitUnescapedFrom_drop (c :: dropped) (escapesNext false c) dropped rest
    rw [List.cons_append, splitUnescapedFrom, List.foldl_cons, ← hrest]
    simp [hstart]

/-- An escaped separator goes to the first part. -/
theorem splitUnescapedFrom_separator_true (hseparator : separator ≠ []) (rest : Text) :
    splitUnescapedFrom separator true 0 0 (separator ++ rest) =
      separator.foldr consFirst
        (splitUnescapedFrom separator (separator.foldl escapesNext true) 0 0 rest) := by
  have hstart : separator.isPrefixOf (separator ++ rest) = true :=
    List.isPrefixOf_iff_prefix.mpr (List.prefix_append separator rest)
  cases hcons : separator with
  | nil => exact absurd hcons hseparator
  | cons c passed =>
    rw [hcons, List.cons_append] at hstart
    have hrest := splitUnescapedFrom_pass (c :: passed) (escapesNext true c) passed rest
    rw [List.cons_append, splitUnescapedFrom, List.foldl_cons, List.foldr_cons, ← hrest]
    simp [hstart]

/-- Whether a text is split into the given parts; `escaped` tells whether its first character is
escaped. -/
inductive Splits (separator : Text) : Bool → Text → List Text → Prop
  /-- Nothing is left. -/
  | done {escaped : Bool} : Splits separator escaped [] [[]]
  /-- A separator cuts. -/
  | cut {rest : Text} {parts : List Text} (h : Splits separator false rest parts) :
      Splits separator false (separator ++ rest) ([] :: parts)
  /-- An escaped separator is passed over. -/
  | pass {rest first : Text} {parts : List Text} (h : Splits separator false rest (first :: parts)) :
      Splits separator true (separator ++ rest) ((separator ++ first) :: parts)
  /-- A character goes to the first part. -/
  | char {escaped : Bool} {c : Char} {rest first : Text} {parts : List Text}
      (hnone : ¬ separator <+: c :: rest)
      (h : Splits separator (escapesNext escaped c) rest (first :: parts)) :
      Splits separator escaped (c :: rest) ((c :: first) :: parts)

theorem foldr_consFirst (passed first : Text) (parts : List Text) :
    passed.foldr consFirst (first :: parts) = (passed ++ first) :: parts := by
  induction passed with
  | nil => rfl
  | cons c passed ih => rw [List.foldr_cons, ih, consFirst_cons, List.cons_append]

/-- There is always a first part. -/
theorem Splits.exists_cons {escaped : Bool} {text : Text} {parts : List Text}
    (h : Splits separator escaped text parts) : ∃ first others, parts = first :: others := by
  cases h <;> exact ⟨_, _, rfl⟩

/-- The parts of a text are those that the rules give. -/
theorem splits_splitUnescapedFrom (hseparator : IsSign separator) (escaped : Bool) (text : Text) :
    Splits separator escaped text (splitUnescapedFrom separator escaped 0 0 text) := by
  induction text using scan_induction hseparator.ne_nil generalizing escaped with
  | nil =>
    rw [splitUnescapedFrom_nil hseparator.ne_nil]
    exact .done
  | occurrence rest ih =>
    have hrest := ih false
    cases escaped with
    | false =>
      rw [splitUnescapedFrom_separator_false hseparator.ne_nil, foldl_escapesNext_sign hseparator]
      exact .cut hrest
    | true =>
      rw [splitUnescapedFrom_separator_true hseparator.ne_nil, foldl_escapesNext_sign hseparator]
      obtain ⟨first, others, hparts⟩ := hrest.exists_cons
      rw [hparts] at hrest ⊢
      rw [foldr_consFirst]
      exact .pass hrest
  | char c rest hnone ih =>
    have hrest := ih (escapesNext escaped c)
    rw [splitUnescapedFrom_char hnone]
    obtain ⟨first, others, hparts⟩ := hrest.exists_cons
    rw [hparts] at hrest ⊢
    exact .char hnone hrest

/-! ## Marks of the parts -/

/-- The escaped marks of a text are those of its parts; only the first may start escaped. -/
theorem Splits.escapedMarksFrom_eq (hseparator : IsSign separator) {escaped : Bool}
    {text first : Text} {parts others : List Text} (h : Splits separator escaped text parts)
    (hparts : parts = first :: others) :
    escapedMarksFrom escaped text = escapedMarksFrom escaped first ++ others.flatMap escapedMarks := by
  induction h generalizing first others with
  | done =>
    cases hparts
    rfl
  | cut h ih =>
    obtain ⟨inner, later, hrest⟩ := h.exists_cons
    cases hparts
    rw [escapedMarksFrom_append, foldl_escapesNext_sign hseparator, ← escapedMarks,
      escapedMarks_of_not_mem hseparator.2.1, ih hrest, hrest]
    rfl
  | pass _ ih =>
    cases hparts
    rw [escapedMarksFrom_append, escapedMarksFrom_append, foldl_escapesNext_sign hseparator, ih rfl,
      List.append_assoc]
  | @char escaped c rest inner _ _ _ ih =>
    cases hparts
    rw [escapedMarksFrom_cons escaped c rest, escapedMarksFrom_cons escaped c inner, ih rfl,
      List.append_assoc]

/-- **The escaped marks of a text are those of its parts.** -/
theorem escapedMarks_splitUnescaped (hseparator : IsSign separator) (text : Text) :
    (splitUnescaped separator text).flatMap escapedMarks = escapedMarks text := by
  have h := splits_splitUnescapedFrom hseparator false text
  obtain ⟨first, others, hparts⟩ := h.exists_cons
  rw [splitUnescaped, hparts, escapedMarks, h.escapedMarksFrom_eq hseparator hparts]
  rfl

/-- Whether no occurrence of a pattern is escaped; `escaped` tells whether the first character is. -/
def NeverEscapedFrom (escaped : Bool) (pattern text : Text) : Prop :=
  ∀ before after, text = before ++ (pattern ++ after) → before.foldl escapesNext escaped = false

/-- Occurrences stand behind the beginnings of the text. -/
theorem neverEscapedFrom_iff {escaped : Bool} {pattern text : Text} :
    NeverEscapedFrom escaped pattern text ↔
      ∀ n < text.length + 1, pattern <+: text.drop n →
        (text.take n).foldl escapesNext escaped = false := by
  constructor
  · rintro h n - ⟨after, hafter⟩
    exact h _ after (by rw [hafter, List.take_append_drop])
  · rintro h before after rfl
    have hlength : before.length < (before ++ (pattern ++ after)).length + 1 := by
      rw [List.length_append]
      omega
    have hbefore := h before.length hlength (by simp)
    rwa [List.take_left] at hbefore

instance (escaped : Bool) (pattern text : Text) : Decidable (NeverEscapedFrom escaped pattern text) :=
  decidable_of_iff _ neverEscapedFrom_iff.symm

/-- Whether **no occurrence of a pattern is escaped**. -/
def NeverEscaped (pattern text : Text) : Prop := NeverEscapedFrom false pattern text

instance (pattern text : Text) : Decidable (NeverEscaped pattern text) :=
  inferInstanceAs (Decidable (NeverEscapedFrom false pattern text))

/-- What holds of a text holds of what follows a part of it. -/
theorem NeverEscapedFrom.of_append {escaped : Bool} {pattern front rest : Text}
    (h : NeverEscapedFrom escaped pattern (front ++ rest)) :
    NeverEscapedFrom (front.foldl escapesNext escaped) pattern rest := by
  rintro before after rfl
  rw [← List.foldl_append]
  exact h (front ++ before) after (by rw [List.append_assoc])

theorem escapesNext_hide (escaped : Bool) (entry : Char × Bool) :
    escapesNext escaped (hide entry) = escapesNext escaped entry.1 := by
  by_cases hc : entry.1 = '\\'
  · rw [(agreeInBackslash_hide entry).mpr hc, hc]
  · rw [escapesNext_of_ne hc, escapesNext_of_ne (mt (agreeInBackslash_hide entry).mp hc)]

/-- A separator among the visible characters is a separator of the text. -/
theorem not_separator_hideMarksFrom (hseparator : IsSign separator) {escaped : Bool} {text : Text}
    (h : ¬ separator <+: text) : ¬ separator <+: hideMarksFrom escaped text := by
  rintro ⟨after, hafter⟩
  obtain ⟨front, back, rfl, hfront, -⟩ := hideMarksFrom_eq_append_iff.mp hafter.symm
  rw [eq_of_hideMarksFrom_eq hseparator.2.2 hfront] at h
  exact h (List.prefix_append _ _)

/-- An escaped separator of one character is hidden. -/
theorem hideMarksFrom_true_singleton {c : Char} (hseparator : IsSign [c]) (rest : Text) :
    hideMarksFrom true ([c] ++ rest) = 'x' :: hideMarksFrom false rest := by
  have hidden : hide (c, true) = 'x' := if_pos hseparator.1
  rw [hideMarksFrom_append, foldl_escapesNext_sign hseparator, ← hidden]
  rfl

/-- A text with hidden marks is split at the same places, if no separator of several characters is
escaped. -/
theorem Splits.hideMarksFrom_eq (hseparator : IsSign separator) {escaped : Bool} {text first : Text}
    {parts others : List Text} (h : Splits separator escaped text parts)
    (hfree : separator.length = 1 ∨ NeverEscapedFrom escaped separator text)
    (hparts : parts = first :: others) :
    splitUnescapedFrom separator escaped 0 0 (hideMarksFrom escaped text) =
      hideMarksFrom escaped first :: others.map hideMarks := by
  induction h generalizing first others with
  | done =>
    cases hparts
    exact splitUnescapedFrom_nil hseparator.ne_nil _
  | cut h ih =>
    obtain ⟨inner, later, hrest⟩ := h.exists_cons
    cases hparts
    have hfree' := hfree.imp_right NeverEscapedFrom.of_append
    rw [foldl_escapesNext_sign hseparator] at hfree'
    rw [hideMarksFrom_append, foldl_escapesNext_sign hseparator, ← hideMarks,
      hideMarks_of_not_mem hseparator.2.1, splitUnescapedFrom_separator_false hseparator.ne_nil,
      foldl_escapesNext_sign hseparator, ih hfree' hrest, hrest]
    rfl
  | @pass rest inner _ _ ih =>
    cases hparts
    rcases hfree with hlength | hfree
    · -- The separator is a single mark, which is hidden.
      obtain ⟨c, rfl⟩ := List.length_eq_one_iff.mp hlength
      have hnone (tail : Text) : ¬ [c] <+: 'x' :: tail := by
        intro hstart
        obtain ⟨rfl, -⟩ := List.cons_prefix_cons.mp hstart
        exact hseparator.2.2 List.mem_cons_self
      rw [hideMarksFrom_true_singleton hseparator, hideMarksFrom_true_singleton hseparator,
        splitUnescapedFrom_char (hnone _), escapesNext_of_ne (by decide), ih (Or.inl hlength) rfl,
        consFirst_cons]
    · cases hfree [] rest rfl
  | @char escaped c rest inner _ hnone _ ih =>
    cases hparts
    have hnone' := @not_separator_hideMarksFrom separator hseparator escaped _ hnone
    have hfree' : separator.length = 1 ∨
        NeverEscapedFrom (escapesNext escaped c) separator rest :=
      hfree.imp_right fun hfree => @NeverEscapedFrom.of_append escaped separator [c] rest hfree
    rw [hideMarksFrom_cons] at hnone'
    rw [hideMarksFrom_cons, hideMarksFrom_cons, splitUnescapedFrom_char hnone', escapesNext_hide,
      ih hfree' rfl, consFirst_cons]

/-- **A text with hidden marks is split at the same places**, if no separator of several characters is
escaped. -/
theorem splitUnescaped_hideMarks (hseparator : IsSign separator) {text : Text}
    (hfree : separator.length = 1 ∨ NeverEscaped separator text) :
    splitUnescaped separator (hideMarks text) = (splitUnescaped separator text).map hideMarks := by
  have h := splits_splitUnescapedFrom hseparator false text
  obtain ⟨first, others, hparts⟩ := h.exists_cons
  rw [splitUnescaped, hideMarks, h.hideMarksFrom_eq hseparator hfree hparts, splitUnescaped, hparts]
  rfl

/-- A separator is found in a text with hidden marks if it is found in the text. -/
theorem containsUnescaped_hideMarks (hseparator : IsSign separator) {text : Text}
    (hfree : separator.length = 1 ∨ NeverEscaped separator text) :
    containsUnescaped separator (hideMarks text) = containsUnescaped separator text := by
  rw [containsUnescaped, splitUnescaped_hideMarks hseparator hfree, List.length_map, containsUnescaped]

end UmlSketch.Text
