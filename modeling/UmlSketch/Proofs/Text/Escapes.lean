import Mathlib.Data.List.Forall2
import Mathlib.Data.List.Induction
import UmlSketch.Text.Escape

/-! # Escaped characters
Whether a character is escaped is told by the run of backslashes before it. Read forwards, that run is
a state of one bit: a backslash that is not escaped escapes the next character, and nothing else does
(`Text.endsEscaping_concat`). The state depends on where the backslashes stand and on nothing else, so
texts that agree in them agree in what is escaped. -/

namespace UmlSketch.Text

/-! ## The state after a text -/

@[simp] theorem endsEscaping_nil : endsEscaping [] = false := rfl

@[simp] theorem escapesNext_of_ne {c : Char} (h : c ≠ '\\') (escaped : Bool) :
    escapesNext escaped c = false := by
  simp [escapesNext, h]

@[simp] theorem escapesNext_backslash (escaped : Bool) : escapesNext escaped '\\' = !escaped := by
  simp [escapesNext]

/-- One more character moves the state by one step. -/
theorem endsEscaping_concat (before : Text) (c : Char) :
    endsEscaping (before ++ [c]) = escapesNext (endsEscaping before) c := by
  by_cases hc : c = '\\'
  · -- The run grows by one, so its parity changes.
    subst hc
    rw [escapesNext_backslash]
    simp only [endsEscaping, List.reverse_append, List.reverse_singleton, List.singleton_append,
      List.takeWhile_cons, decide_true, if_true, List.length_cons]
    rw [Bool.eq_iff_iff]
    simp only [decide_eq_true_eq, Bool.not_eq_true', decide_eq_false_iff_not]
    omega
  · rw [escapesNext_of_ne hc]
    simp [endsEscaping, hc]

/-- The state after a text is reached from the state before it, character by character. -/
theorem endsEscaping_append (before after : Text) :
    endsEscaping (before ++ after) = after.foldl escapesNext (endsEscaping before) := by
  induction after using List.reverseRecOn with
  | nil => rw [List.append_nil, List.foldl_nil]
  | append_singleton after c ih =>
    rw [← List.append_assoc, endsEscaping_concat, ih, List.foldl_append, List.foldl_cons,
      List.foldl_nil]

/-- The state after a text on its own. -/
theorem endsEscaping_eq_foldl (text : Text) : endsEscaping text = text.foldl escapesNext false :=
  endsEscaping_append [] text

/-- What stands before a text that leaves no escape open does not matter behind it. -/
theorem endsEscaping_append_of_false {before : Text} (h : endsEscaping before = false)
    (after : Text) : endsEscaping (before ++ after) = endsEscaping after := by
  rw [endsEscaping_append, h, endsEscaping_eq_foldl]

theorem endsEscaping_cons_of_ne {c : Char} (h : c ≠ '\\') (rest : Text) :
    endsEscaping (c :: rest) = endsEscaping rest := by
  have hstart : endsEscaping [c] = false := by simp [endsEscaping, h]
  exact endsEscaping_append_of_false hstart rest

/-- A backslash and the character after it leave no escape open. -/
theorem endsEscaping_pair (c : Char) (rest : Text) :
    endsEscaping ('\\' :: c :: rest) = endsEscaping rest := by
  have hstart : endsEscaping ['\\'] = true := by decide
  have hpair : endsEscaping (['\\'] ++ [c]) = false := by
    rw [endsEscaping_concat, hstart]
    simp [escapesNext]
  exact endsEscaping_append_of_false hpair rest

/-- Whether two characters agree in being a backslash or not. -/
def AgreeInBackslash (c d : Char) : Prop := c = '\\' ↔ d = '\\'

/-- Texts with their backslashes at the same places lead to the same state. -/
theorem endsEscaping_congr {text other : Text} (h : List.Forall₂ AgreeInBackslash text other) :
    endsEscaping text = endsEscaping other := by
  rw [endsEscaping_eq_foldl, endsEscaping_eq_foldl]
  generalize false = escaped
  induction h generalizing escaped with
  | nil => rfl
  | @cons c d _ _ hcd _ ih =>
    have hstep : escapesNext escaped c = escapesNext escaped d := by
      by_cases hc : c = '\\'
      · rw [hc, hcd.mp hc]
      · rw [escapesNext_of_ne hc, escapesNext_of_ne fun hd => hc (hcd.mpr hd)]
    rw [List.foldl_cons, List.foldl_cons, hstep]
    exact ih _

/-! ## The characters of a text with their states -/

/-- The characters of a text, each with whether it is escaped; `escaped` tells so for the first. -/
def judgedFrom (escaped : Bool) : Text → List (Char × Bool)
  | [] => []
  | c :: rest => (c, escaped) :: judgedFrom (escapesNext escaped c) rest

/-- The **characters of a text**, each with whether it is escaped. -/
def judged (text : Text) : List (Char × Bool) := judgedFrom false text

theorem judgedFrom_append (escaped : Bool) (text after : Text) :
    judgedFrom escaped (text ++ after) =
      judgedFrom escaped text ++ judgedFrom (text.foldl escapesNext escaped) after := by
  induction text generalizing escaped with
  | nil => rfl
  | cons c rest ih => rw [List.cons_append, judgedFrom, ih, judgedFrom, List.foldl_cons, List.cons_append]

@[simp] theorem judged_nil : judged [] = [] := rfl

theorem judged_append (text after : Text) :
    judged (text ++ after) = judged text ++ judgedFrom (endsEscaping text) after := by
  rw [judged, judgedFrom_append, ← endsEscaping_eq_foldl, judged]

theorem judged_concat (text : Text) (c : Char) :
    judged (text ++ [c]) = judged text ++ [(c, endsEscaping text)] := by
  rw [judged_append]
  rfl

/-- A pair of a backslash and the character after it. -/
theorem judged_pair (c : Char) (rest : Text) :
    judged ('\\' :: c :: rest) = ('\\', false) :: (c, true) :: judged rest := by
  simp [judged, judgedFrom, escapesNext]

theorem judged_cons_of_ne {c : Char} (h : c ≠ '\\') (rest : Text) :
    judged (c :: rest) = (c, false) :: judged rest := by
  rw [judged, judgedFrom, escapesNext_of_ne h, judged]

/-! ## Classes of characters -/

/-- Whether all characters of a class stand escaped in a text, or all of them not escaped. -/
def StandEscaped (escaped : Bool) (isIn : Char → Bool) (text : Text) : Prop :=
  ∀ before c after, text = before ++ c :: after → isIn c = true → endsEscaping before = escaped

/-- Whether every character of a class is escaped: it stands behind an odd run of backslashes. -/
abbrev AllEscaped (isIn : Char → Bool) (text : Text) : Prop := StandEscaped true isIn text

/-- Whether no character of a class is escaped: each stands behind an even run of backslashes. -/
abbrev NoneEscaped (isIn : Char → Bool) (text : Text) : Prop := StandEscaped false isIn text

namespace StandEscaped

variable {escaped : Bool} {isIn : Char → Bool} {text : Text}

@[simp] theorem nil : StandEscaped escaped isIn [] := by
  intro before c after h
  simp at h

/-- One more character stands behind the text. -/
theorem concat_iff {c : Char} : StandEscaped escaped isIn (text ++ [c]) ↔
    StandEscaped escaped isIn text ∧ (isIn c = true → endsEscaping text = escaped) := by
  constructor
  · intro h
    refine ⟨fun before d after htext => h before d (after ++ [c]) ?_, h text c [] rfl⟩
    rw [htext, List.append_assoc, List.cons_append]
  · rintro ⟨htext, hc⟩ before d after heq
    -- The character is the last one, or it stands in the text before it.
    cases after using List.reverseRecOn with
    | nil =>
      obtain ⟨rfl, hlast⟩ := List.append_inj' heq rfl
      cases hlast
      exact hc
    | append_singleton after last =>
      rw [← List.cons_append, ← List.append_assoc] at heq
      exact htext before d after (List.append_inj' heq rfl).1

/-- A class of characters stands as told exactly if each of its characters is judged so. -/
theorem iff_judged : StandEscaped escaped isIn text ↔
    ∀ entry ∈ judged text, isIn entry.1 = true → entry.2 = escaped := by
  induction text using List.reverseRecOn with
  | nil => simp
  | append_singleton text c ih =>
    rw [concat_iff, ih, judged_concat, List.forall_mem_append, List.forall_mem_singleton]

instance : Decidable (StandEscaped escaped isIn text) := decidable_of_iff _ iff_judged.symm

end StandEscaped

/-- Of a pair at the start of a text, the second character is escaped. -/
theorem noneEscaped_pair {isIn : Char → Bool} (c : Char) (rest : Text) :
    NoneEscaped isIn ('\\' :: c :: rest) ↔ isIn c = false ∧ NoneEscaped isIn rest := by
  rw [NoneEscaped, NoneEscaped, StandEscaped.iff_judged, StandEscaped.iff_judged, judged_pair,
    List.forall_mem_cons, List.forall_mem_cons]
  simp

theorem noneEscaped_cons_of_ne {isIn : Char → Bool} {c : Char} (h : c ≠ '\\') (rest : Text) :
    NoneEscaped isIn (c :: rest) ↔ NoneEscaped isIn rest := by
  rw [NoneEscaped, NoneEscaped, StandEscaped.iff_judged, StandEscaped.iff_judged,
    judged_cons_of_ne h, List.forall_mem_cons]
  simp

/-! ## Reading in pairs -/

/-- A text is read from the left, a backslash together with the character after it. -/
theorem pairs_induction {motive : Text → Prop} (nil : motive []) (backslash : motive ['\\'])
    (pair : ∀ c rest, motive rest → motive ('\\' :: c :: rest))
    (char : ∀ c rest, c ≠ '\\' → motive rest → motive (c :: rest)) : ∀ text, motive text
  | [] => nil
  | [c] => by
    by_cases hc : c = '\\'
    · rw [hc]
      exact backslash
    · exact char c [] hc nil
  | c :: d :: rest => by
    by_cases hc : c = '\\'
    · rw [hc]
      exact pair d rest (pairs_induction nil backslash pair char rest)
    · exact char c (d :: rest) hc (pairs_induction nil backslash pair char (d :: rest))

/-! ## Reading up to a character that is not escaped -/

theorem spanUnescaped_cons_of_ne {stop : Char → Bool} {c : Char} (h : c ≠ '\\') (rest : Text) :
    spanUnescaped stop (c :: rest) =
      if stop c then ([], c :: rest)
      else (c :: (spanUnescaped stop rest).1, (spanUnescaped stop rest).2) := by
  rw [spanUnescaped]
  rintro d after rfl
  exact absurd rfl h

/-- What is not read starts with a character that stops the reading. -/
theorem stop_of_spanUnescaped {stop : Char → Bool} {text after : Text} {c : Char}
    (h : (spanUnescaped stop text).2 = c :: after) : stop c = true := by
  fun_induction spanUnescaped stop text with
  | case1 => simp at h
  | case2 d rest read unread hread ih => exact ih (by rwa [hread])
  | case3 d rest hpair hstop =>
    obtain ⟨rfl, -⟩ := List.cons.inj h
    exact hstop
  | case4 d rest hpair hstop read unread hread ih => exact ih (by rwa [hread])

/-- In what is read, a character that stops the reading is escaped. -/
theorem allEscaped_spanUnescaped {stop : Char → Bool} (hstop : stop '\\' = false) (text : Text) :
    AllEscaped stop (spanUnescaped stop text).1 := by
  rw [AllEscaped, StandEscaped.iff_judged]
  fun_induction spanUnescaped stop text with
  | case1 => simp
  | case2 c rest read unread hread ih =>
    rw [hread] at ih
    rw [judged_pair, List.forall_mem_cons, List.forall_mem_cons]
    exact ⟨by simp [hstop], fun _ => rfl, ih⟩
  | case3 => simp
  | case4 c rest hpair hc read unread hread ih =>
    rw [hread] at ih
    rw [judged, judgedFrom, List.forall_mem_cons]
    refine ⟨fun h => absurd h hc, ?_⟩
    by_cases hbackslash : c = '\\'
    · -- A backslash at the end of the text escapes nothing.
      cases rest with
      | nil =>
        obtain ⟨rfl, -⟩ := Prod.mk.inj hread
        simp [judgedFrom]
      | cons d after => exact absurd rfl (hpair d after hbackslash)
    · rwa [escapesNext_of_ne hbackslash]

/-! ## Taking off an end -/

/-- A text without an end is what stands before it. -/
theorem dropEnd?_eq_some_iff {pattern text rest : Text} :
    dropEnd? pattern text = some rest ↔ text = rest ++ pattern := by
  constructor
  · exact dropEnd?_eq_some
  · rintro rfl
    have hsuffix : pattern.isSuffixOf (rest ++ pattern) = true :=
      List.isSuffixOf_iff_suffix.mpr (List.suffix_append rest pattern)
    rw [dropEnd?, if_pos hsuffix, List.length_append, Nat.add_sub_cancel, List.take_left]

/-- An end is taken off if its first character is not escaped. -/
theorem dropUnescapedSuffix?_eq_some_iff {suffix text before : Text} :
    dropUnescapedSuffix? suffix text = some before ↔
      text = before ++ suffix ∧ endsEscaping before = false := by
  rw [dropUnescapedSuffix?, Option.filter_eq_some_iff, dropEnd?_eq_some_iff, Bool.not_eq_true']

end UmlSketch.Text
