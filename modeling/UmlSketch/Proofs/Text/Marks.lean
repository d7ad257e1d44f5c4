import UmlSketch.Expr
import UmlSketch.Proofs.Text.Escapes
import UmlSketch.Proofs.Text.Trim

/-! # Marks
The separators and arrows of the notation are made of five characters, the marks. An escaped mark is
meant as an ordinary character. `Text.hideMarks` puts an ordinary character in the place of each mark
that is escaped, `Text.escapedMarks` lists these marks; what takes a text apart without regard to its
escaped marks commutes with the first and keeps the second. -/

namespace UmlSketch

namespace Text

/-- Whether a character is a **mark**: separators and arrows are made of them. -/
def isMark (c : Char) : Bool := c = '-' || c = '>' || c = '<' || c = '+' || c = '^'

/-- An ordinary character for an escaped mark, and every other character as it is. -/
def hide (entry : Char × Bool) : Char := if entry.2 && isMark entry.1 then 'x' else entry.1

/-- The text with its escaped marks hidden; `escaped` tells whether the first character is escaped. -/
def hideMarksFrom (escaped : Bool) (text : Text) : Text := (judgedFrom escaped text).map hide

/-- The **text with its escaped marks hidden**. -/
def hideMarks (text : Text) : Text := hideMarksFrom false text

/-- The escaped marks of a text; `escaped` tells whether the first character is escaped. -/
def escapedMarksFrom (escaped : Bool) (text : Text) : Text :=
  ((judgedFrom escaped text).filter fun entry => entry.2 && isMark entry.1).map Prod.fst

/-- The **escaped marks** of a text, in order. -/
def escapedMarks (text : Text) : Text := escapedMarksFrom false text

/-! ## One text after another -/

theorem hideMarksFrom_cons (escaped : Bool) (c : Char) (rest : Text) :
    hideMarksFrom escaped (c :: rest) =
      hide (c, escaped) :: hideMarksFrom (escapesNext escaped c) rest := rfl

theorem hideMarksFrom_append (escaped : Bool) (text after : Text) :
    hideMarksFrom escaped (text ++ after) =
      hideMarksFrom escaped text ++ hideMarksFrom (text.foldl escapesNext escaped) after := by
  rw [hideMarksFrom, judgedFrom_append, List.map_append, hideMarksFrom, hideMarksFrom]

theorem hideMarks_append (text after : Text) :
    hideMarks (text ++ after) = hideMarks text ++ hideMarksFrom (endsEscaping text) after := by
  rw [hideMarks, hideMarksFrom_append, ← endsEscaping_eq_foldl, hideMarks]

theorem escapedMarksFrom_append (escaped : Bool) (text after : Text) :
    escapedMarksFrom escaped (text ++ after) =
      escapedMarksFrom escaped text ++ escapedMarksFrom (text.foldl escapesNext escaped) after := by
  simp only [escapedMarksFrom, judgedFrom_append, List.filter_append, List.map_append]

theorem escapedMarksFrom_cons (escaped : Bool) (c : Char) (rest : Text) :
    escapedMarksFrom escaped (c :: rest) =
      escapedMarksFrom escaped [c] ++ escapedMarksFrom (escapesNext escaped c) rest :=
  escapedMarksFrom_append escaped [c] rest

theorem escapedMarks_append (text after : Text) :
    escapedMarks (text ++ after) =
      escapedMarks text ++ escapedMarksFrom (endsEscaping text) after := by
  rw [escapedMarks, escapedMarksFrom_append, ← endsEscaping_eq_foldl, escapedMarks]

@[simp] theorem length_hideMarksFrom (escaped : Bool) (text : Text) :
    (hideMarksFrom escaped text).length = text.length := by
  induction text generalizing escaped with
  | nil => rfl
  | cons c rest ih => exact congrArg Nat.succ (ih (escapesNext escaped c))

/-- No mark is a backslash, and none becomes one. -/
theorem agreeInBackslash_hide (entry : Char × Bool) : AgreeInBackslash (hide entry) entry.1 := by
  unfold AgreeInBackslash hide
  split
  · rename_i hmark
    simp only [isMark, Bool.and_eq_true, Bool.or_eq_true, decide_eq_true_eq] at hmark
    rcases hmark.2 with (((h | h) | h) | h) | h <;> simp [h]
  · rfl

/-- Hiding marks does not change what is escaped behind a text. -/
@[simp] theorem endsEscaping_hideMarks (text : Text) :
    endsEscaping (hideMarks text) = endsEscaping text := by
  refine endsEscaping_congr ?_
  unfold hideMarks
  generalize false = escaped
  induction text generalizing escaped with
  | nil => exact List.Forall₂.nil
  | cons c rest ih => exact List.Forall₂.cons (agreeInBackslash_hide (c, escaped)) (ih _)

/-! ## Texts that are left as they are -/

theorem hide_of_not_isMark {c : Char} (h : isMark c = false) (escaped : Bool) :
    hide (c, escaped) = c := by
  simp [hide, h]

/-- A text without marks has none to hide. -/
theorem hideMarksFrom_of_not_isMark {text : Text} (h : ∀ c ∈ text, isMark c = false)
    (escaped : Bool) : hideMarksFrom escaped text = text := by
  induction text generalizing escaped with
  | nil => rfl
  | cons c rest ih =>
    rw [List.forall_mem_cons] at h
    rw [hideMarksFrom, judgedFrom, List.map_cons, hide_of_not_isMark h.1, ← hideMarksFrom, ih h.2]

theorem escapedMarksFrom_of_not_isMark {text : Text} (h : ∀ c ∈ text, isMark c = false)
    (escaped : Bool) : escapedMarksFrom escaped text = [] := by
  induction text generalizing escaped with
  | nil => rfl
  | cons c rest ih =>
    rw [List.forall_mem_cons] at h
    rw [escapedMarksFrom, judgedFrom, List.filter_cons_of_neg (by simp [h.1])]
    exact ih h.2 _

/-- Behind a text without backslashes, nothing is escaped that is not escaped before it. -/
theorem endsEscaping_of_not_mem {text : Text} (h : '\\' ∉ text) : endsEscaping text = false := by
  induction text using List.reverseRecOn with
  | nil => rfl
  | append_singleton text c _ =>
    rw [List.mem_append, List.mem_singleton, not_or] at h
    rw [endsEscaping_concat, escapesNext_of_ne (Ne.symm h.2)]

theorem judged_of_not_mem {text : Text} (h : '\\' ∉ text) :
    judged text = text.map fun c => (c, false) := by
  induction text with
  | nil => rfl
  | cons c rest ih =>
    rw [List.mem_cons, not_or] at h
    rw [judged_cons_of_ne (Ne.symm h.1), ih h.2, List.map_cons]

/-- A text without backslashes has no escaped marks. -/
theorem hideMarks_of_not_mem {text : Text} (h : '\\' ∉ text) : hideMarks text = text := by
  rw [hideMarks, hideMarksFrom, ← judged, judged_of_not_mem h, List.map_map]
  exact List.map_id'' (fun _ => rfl) text

theorem escapedMarks_of_not_mem {text : Text} (h : '\\' ∉ text) : escapedMarks text = [] := by
  rw [escapedMarks, escapedMarksFrom, ← judged, judged_of_not_mem h]
  simp [List.filter_map]

/-- The first character of a text is not escaped. -/
@[simp] theorem head?_hideMarks (text : Text) : (hideMarks text).head? = text.head? := by
  cases text <;> rfl

/-- A single character is not escaped. -/
theorem hideMarks_eq_singleton_iff {text : Text} {c : Char} :
    hideMarks text = [c] ↔ text = [c] := by
  constructor
  · intro h
    have hlength := congrArg List.length h
    rw [hideMarks, length_hideMarksFrom] at hlength
    obtain ⟨d, rfl⟩ := List.length_eq_one_iff.mp hlength
    exact h
  · rintro rfl
    rfl

/-! ## Parts of a text with hidden marks -/

/-- The parts of a text with hidden marks are those of the text, with their marks hidden. -/
theorem hideMarksFrom_eq_append_iff {escaped : Bool} {text before after : Text} :
    hideMarksFrom escaped text = before ++ after ↔
      ∃ front back, text = front ++ back ∧ hideMarksFrom escaped front = before ∧
        hideMarksFrom (front.foldl escapesNext escaped) back = after := by
  constructor
  · intro h
    have htext := (List.take_append_drop before.length text).symm
    have hlength := congrArg List.length h
    rw [length_hideMarksFrom, List.length_append] at hlength
    rw [htext, hideMarksFrom_append] at h
    have hfront : (hideMarksFrom escaped (text.take before.length)).length = before.length := by
      rw [length_hideMarksFrom, List.length_take]
      omega
    obtain ⟨hbefore, hafter⟩ := List.append_inj h hfront
    exact ⟨_, _, htext, hbefore, hafter⟩
  · rintro ⟨front, back, rfl, rfl, rfl⟩
    exact hideMarksFrom_append escaped front back

theorem hideMarks_eq_append_iff {text before after : Text} :
    hideMarks text = before ++ after ↔
      ∃ front back, text = front ++ back ∧ hideMarks front = before ∧
        hideMarksFrom (endsEscaping front) back = after := by
  simp only [hideMarks, hideMarksFrom_eq_append_iff, endsEscaping_eq_foldl]

/-- Whether a text is a separator or an arrow: it starts with a mark, and it is plain. -/
def IsSign (text : Text) : Prop := text.head?.any isMark = true ∧ '\\' ∉ text ∧ 'x' ∉ text

instance (text : Text) : Decidable (IsSign text) := inferInstanceAs (Decidable (_ ∧ _ ∧ _))

/-- A sign is not empty. -/
theorem IsSign.ne_nil {sign : Text} (h : IsSign sign) : sign ≠ [] := by
  rintro rfl
  simp [IsSign] at h

/-- What is left visible was there before. -/
theorem eq_of_hideMarksFrom_eq {escaped : Bool} {text sign : Text} (hsign : 'x' ∉ sign)
    (h : hideMarksFrom escaped text = sign) : text = sign := by
  induction text generalizing escaped sign with
  | nil => exact h
  | cons c rest ih =>
    subst h
    rw [hideMarksFrom, judgedFrom, List.map_cons, List.mem_cons, not_or] at hsign
    have hc : hide (c, escaped) = c := by
      unfold hide
      split
      · rename_i hmark
        exact absurd (if_pos hmark).symm hsign.1
      · rfl
    rw [hideMarksFrom, judgedFrom, List.map_cons, hc]
    exact congrArg (List.cons c) (ih hsign.2 rfl)

/-- A sign that is left visible is not escaped. -/
theorem eq_false_of_hideMarksFrom_eq {escaped : Bool} {sign : Text} (hsign : IsSign sign)
    (h : hideMarksFrom escaped sign = sign) : escaped = false := by
  cases sign with
  | nil => simp [IsSign] at hsign
  | cons c rest =>
    obtain ⟨hmark, -, hx⟩ := hsign
    cases escaped with
    | false => rfl
    | true =>
      have hhidden : 'x' = hide (c, true) := (if_pos hmark).symm
      rw [← h, hideMarksFrom, judgedFrom, List.map_cons, ← hhidden] at hx
      exact absurd List.mem_cons_self hx

/-- Behind a sign, a text is judged on its own. -/
theorem foldl_escapesNext_sign {sign : Text} (hsign : IsSign sign) (escaped : Bool) :
    sign.foldl escapesNext escaped = false := by
  cases sign using List.reverseRecOn with
  | nil => simp [IsSign] at hsign
  | append_singleton sign c =>
    have hc : c ≠ '\\' := by
      rintro rfl
      exact hsign.2.1 (by simp)
    rw [List.foldl_append, List.foldl_cons, List.foldl_nil, escapesNext_of_ne hc]

theorem endsEscaping_sign {sign : Text} (hsign : IsSign sign) : endsEscaping sign = false := by
  rw [endsEscaping_eq_foldl, foldl_escapesNext_sign hsign]

/-! ## Ends and starts -/

/-- Taking a sign that is not escaped off the end commutes with hiding marks. -/
theorem dropUnescapedSuffix?_hideMarks {sign : Text} (hsign : IsSign sign) (text : Text) :
    dropUnescapedSuffix? sign (hideMarks text) = (dropUnescapedSuffix? sign text).map hideMarks := by
  ext before
  simp only [Option.map_eq_some_iff, dropUnescapedSuffix?_eq_some_iff, hideMarks_eq_append_iff]
  constructor
  · rintro ⟨⟨front, back, rfl, rfl, hback⟩, hfront⟩
    rw [endsEscaping_hideMarks] at hfront
    exact ⟨front, ⟨by rw [eq_of_hideMarksFrom_eq hsign.2.2 hback], hfront⟩, rfl⟩
  · rintro ⟨front, ⟨rfl, hfront⟩, rfl⟩
    refine ⟨⟨front, sign, rfl, rfl, ?_⟩, by rwa [endsEscaping_hideMarks]⟩
    rw [hfront]
    exact hideMarks_of_not_mem hsign.2.1

/-- In a text with hidden marks, a sign at the end is not escaped. -/
theorem dropEnd?_hideMarks {sign : Text} (hsign : IsSign sign) (text : Text) :
    dropEnd? sign (hideMarks text) = (dropUnescapedSuffix? sign text).map hideMarks := by
  rw [← dropUnescapedSuffix?_hideMarks hsign]
  ext before
  rw [dropUnescapedSuffix?_eq_some_iff, dropEnd?_eq_some_iff]
  refine ⟨fun h => ⟨h, ?_⟩, fun h => h.1⟩
  obtain ⟨front, back, rfl, rfl, hback⟩ := hideMarks_eq_append_iff.mp h
  rw [endsEscaping_hideMarks]
  exact eq_false_of_hideMarksFrom_eq hsign (eq_of_hideMarksFrom_eq hsign.2.2 hback ▸ hback)

/-- A text that starts with another is this and what follows. -/
theorem dropStart?_eq_some_iff {pattern text rest : Text} :
    dropStart? pattern text = some rest ↔ text = pattern ++ rest := by
  constructor
  · exact dropStart?_eq_some
  · rintro rfl
    have hprefix : pattern.isPrefixOf (pattern ++ rest) = true :=
      List.isPrefixOf_iff_prefix.mpr (List.prefix_append pattern rest)
    rw [dropStart?, if_pos hprefix, List.drop_left]

/-- A sign at the start of a text is not escaped, so taking it off commutes with hiding marks. -/
theorem dropStart?_hideMarks {sign : Text} (hsign : IsSign sign) (text : Text) :
    dropStart? sign (hideMarks text) = (dropStart? sign text).map hideMarks := by
  have hstate := endsEscaping_sign hsign
  ext after
  simp only [Option.map_eq_some_iff, dropStart?_eq_some_iff, hideMarks_eq_append_iff]
  constructor
  · rintro ⟨front, back, rfl, hfront, rfl⟩
    obtain rfl := eq_of_hideMarksFrom_eq hsign.2.2 hfront
    exact ⟨back, rfl, by rw [hstate, hideMarks]⟩
  · rintro ⟨back, rfl, rfl⟩
    exact ⟨sign, back, rfl, hideMarks_of_not_mem hsign.2.1, by rw [hstate, hideMarks]⟩

/-- The escaped marks of a text behind a sign. -/
theorem escapedMarks_sign_append {sign : Text} (hsign : IsSign sign) (text : Text) :
    escapedMarks (sign ++ text) = escapedMarks text := by
  have hstate := endsEscaping_sign hsign
  rw [escapedMarks_append, escapedMarks_of_not_mem hsign.2.1, hstate, List.nil_append, escapedMarks]

/-- The escaped marks of a text before a sign that is not escaped. -/
theorem escapedMarks_append_sign {sign text : Text} (hsign : IsSign sign)
    (htext : endsEscaping text = false) : escapedMarks (text ++ sign) = escapedMarks text := by
  rw [escapedMarks_append, htext, ← escapedMarks, escapedMarks_of_not_mem hsign.2.1, List.append_nil]

/-! ## Blanks -/

theorem isMark_eq_false_of_isBlank {c : Char} (h : isBlank c = true) : isMark c = false := by
  cases hmark : isMark c with
  | false => rfl
  | true =>
    simp only [isMark, Bool.or_eq_true, decide_eq_true_eq] at hmark
    rcases hmark with (((rfl | rfl) | rfl) | rfl) | rfl <;> revert h <;> decide

@[simp] theorem isBlank_hide (entry : Char × Bool) : isBlank (hide entry) = isBlank entry.1 := by
  unfold hide
  split
  · rename_i hmark
    rw [Bool.and_eq_true] at hmark
    cases hblank : isBlank entry.1 with
    | false => decide
    | true =>
      rw [isMark_eq_false_of_isBlank hblank] at hmark
      cases hmark.2
  · rfl

theorem IsTrimmed.hideMarks {text : Text} (h : IsTrimmed text) : IsTrimmed (hideMarks text) where
  head := by
    cases text with
    | nil => exact h.head
    | cons c rest =>
      rintro d hd
      obtain rfl := Option.some.inj hd
      rw [isBlank_hide]
      exact h.head c rfl
  last := by
    cases text using List.reverseRecOn with
    | nil => exact h.last
    | append_singleton text c =>
      rintro d hd
      rw [hideMarks_append] at hd
      obtain rfl : hide (c, endsEscaping text) = d := by
        simpa [hideMarksFrom, judgedFrom] using hd
      rw [isBlank_hide]
      exact h.last c (by simp)

/-- No blank is a mark or a backslash, so what stands between blanks keeps its escaped marks. -/
theorem escapedMarks_between {lead blanks : Text} (middle : Text)
    (hlead : ∀ c ∈ lead, isBlank c = true) (hblanks : ∀ c ∈ blanks, isBlank c = true) :
    hideMarks (lead ++ (middle ++ blanks)) = lead ++ (hideMarks middle ++ blanks) ∧
      escapedMarks (lead ++ (middle ++ blanks)) = escapedMarks middle := by
  have hmarks {part : Text} (hpart : ∀ c ∈ part, isBlank c = true) : ∀ c ∈ part, isMark c = false :=
    fun c hc => isMark_eq_false_of_isBlank (hpart c hc)
  have hmem : '\\' ∉ lead := fun hmem => absurd (hlead _ hmem) (by decide)
  constructor
  · rw [hideMarks_append, hideMarks_of_not_mem hmem, endsEscaping_of_not_mem hmem, ← hideMarks,
      hideMarks_append, hideMarksFrom_of_not_isMark (hmarks hblanks)]
  · rw [escapedMarks_append, escapedMarks_of_not_mem hmem, endsEscaping_of_not_mem hmem,
      ← escapedMarks, escapedMarks_append, escapedMarksFrom_of_not_isMark (hmarks hblanks),
      List.nil_append, List.append_nil]

/-- Trimming commutes with hiding marks. -/
theorem trim_hideMarks (text : Text) : trim (hideMarks text) = hideMarks (trim text) := by
  obtain ⟨blanks, heq, hblanks⟩ := exists_eq_trim_append text
  have hlead : ∀ c ∈ text.takeWhile isBlank, isBlank c = true := fun _ => List.mem_takeWhile_imp
  have hbetween := (escapedMarks_between (trim text) hlead hblanks).1
  rw [← heq] at hbetween
  rw [hbetween, trim_append hlead (isTrimmed_trim text).hideMarks hblanks]

/-- Trimming keeps the escaped marks. -/
theorem escapedMarks_trim (text : Text) : escapedMarks (trim text) = escapedMarks text := by
  obtain ⟨blanks, heq, hblanks⟩ := exists_eq_trim_append text
  have hlead : ∀ c ∈ text.takeWhile isBlank, isBlank c = true := fun _ => List.mem_takeWhile_imp
  have hbetween := (escapedMarks_between (trim text) hlead hblanks).2
  rw [← heq] at hbetween
  exact hbetween.symm

end Text

/-- A label has its marks hidden if the text it is taken from has. -/
theorem nonEmptyLabel?_hideMarks (text : Text) :
    nonEmptyLabel? text.hideMarks = (nonEmptyLabel? text).map Text.hideMarks := by
  have hempty : Text.hideMarks (Text.trim text) = [] ↔ Text.trim text = [] := by
    rw [← List.length_eq_zero_iff, Text.hideMarks, Text.length_hideMarksFrom,
      List.length_eq_zero_iff]
  unfold nonEmptyLabel?
  rw [Text.trim_hideMarks]
  by_cases h : Text.trim text = []
  · rw [if_pos h, if_pos (hempty.mpr h)]
    rfl
  · rw [if_neg h, if_neg (mt hempty.mp h)]
    rfl

/-- A label keeps the escaped marks of the text it is taken from. -/
theorem escapedMarks_nonEmptyLabel? (text : Text) :
    (nonEmptyLabel? text).toList.flatMap Text.escapedMarks = Text.escapedMarks text := by
  rw [← Text.escapedMarks_trim]
  unfold nonEmptyLabel?
  split
  · rename_i h
    rw [h]
    rfl
  · simp

end UmlSketch
