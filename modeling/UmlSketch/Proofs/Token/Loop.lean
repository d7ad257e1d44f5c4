import UmlSketch.Proofs.Text.Escapes
import UmlSketch.Token

/-! # Cutting a line as a loop
`Token.pieces` recurses on what it has not read. The same cut is described here by the steps of a
scanner: readers that fail or leave the rest of a text, combined by choice (`<|>`) and by repetition
(`Token.repeating`), and a loop that asks for the next piece until the line is used up. The loop has an
exit for a reader that fails on what is left. `Token.cuts_iff` says that this exit is never taken and
that every line is cut in exactly one way, the pieces. -/

namespace UmlSketch.Token

/-! ## Readers -/

/-- A **reader**: what it leaves of a text, or nothing where it does not apply. -/
abbrev Reader := Text → Option Text

/-- Reads one character that satisfies a test. -/
def oneOf (isIn : Char → Bool) : Reader
  | [] => none
  | c :: rest => if isIn c then some rest else none

/-- Reads a backslash and the character after it. -/
def escapePair : Reader
  | '\\' :: _ :: rest => some rest
  | _ => none

/-- Reads an escaped character, or one at which the reading does not stop. -/
def unit (stop : Char → Bool) : Reader := fun text =>
  escapePair text <|> oneOf (fun c => !stop c) text

/-- Repeats a reader as long as it applies. One that applies without reading anything would be
repeated forever, so the repetition fails there. -/
def repeating (reader : Reader) (text : Text) : Option Text :=
  match reader text with
  | none => some text
  | some rest => if _shorter : rest.length < text.length then repeating reader rest else none
termination_by text.length

/-- Reads what a reader can read, and nothing where it does not apply. -/
def optional (reader : Reader) : Reader := fun text => some ((reader text).getD text)

/-- Reads an opening character and what follows up to its closer, the closer included if there is
one. -/
def bracket (openers : Text) : Reader
  | [] => none
  | c :: rest =>
    if openers.contains c then
      (repeating (unit (· == closerOf c)) rest).bind (optional (oneOf (· == closerOf c)))
    else none

/-- Reads what stands between brackets; there is at least one character. -/
def connector (openers : Text) : Reader := fun text =>
  (unit openers.contains text).bind (repeating (unit openers.contains))

/-- Reads the next piece of a line. -/
def next (openers : Text) : Reader := fun text => bracket openers text <|> connector openers text

/-! ## What the readers leave -/

theorem repeating_of_none {reader : Reader} {text : Text} (h : reader text = none) :
    repeating reader text = some text := by
  unfold repeating
  split
  · rfl
  · simp_all

theorem repeating_of_some {reader : Reader} {text rest : Text} (h : reader text = some rest)
    (hshorter : rest.length < text.length) : repeating reader text = repeating reader rest := by
  rw [repeating]
  split
  · simp_all
  · simp_all

theorem escapePair_eq_none {c : Char} {rest : Text}
    (h : ∀ d after, c = '\\' → rest = d :: after → False) : escapePair (c :: rest) = none := by
  unfold escapePair
  split
  · simp_all
  · rfl

theorem length_of_escapePair {text rest : Text} (h : escapePair text = some rest) :
    rest.length < text.length := by
  unfold escapePair at h
  split at h
  · obtain rfl := Option.some.inj h
    simp only [List.length_cons]
    omega
  · simp at h

theorem length_of_oneOf {isIn : Char → Bool} {text rest : Text} (h : oneOf isIn text = some rest) :
    rest.length < text.length := by
  cases text with
  | nil => simp [oneOf] at h
  | cons c after =>
    obtain ⟨-, rfl⟩ := by simpa [oneOf] using h
    simp

/-- A unit is at least one character. -/
theorem length_of_unit {stop : Char → Bool} {text rest : Text} (h : unit stop text = some rest) :
    rest.length < text.length := by
  cases hpair : escapePair text with
  | none => exact length_of_oneOf (by simpa [unit, hpair] using h)
  | some after => exact length_of_escapePair (by simpa [unit, hpair] using h)

/-- Repeating units reads what `Text.spanUnescaped` reads; the repetition never fails. -/
theorem repeating_unit (stop : Char → Bool) (text : Text) :
    repeating (unit stop) text = some (Text.spanUnescaped stop text).2 := by
  fun_induction Text.spanUnescaped stop text with
  | case1 => exact repeating_of_none rfl
  | case2 c rest read unread hread ih =>
    have hunit : unit stop ('\\' :: c :: rest) = some rest := rfl
    rw [repeating_of_some hunit (length_of_unit hunit), ih, hread]
  | case3 c rest hpair hstop =>
    exact repeating_of_none (by simp [unit, escapePair_eq_none hpair, oneOf, hstop])
  | case4 c rest hpair hstop read unread hread ih =>
    have hunit : unit stop (c :: rest) = some rest := by
      simp [unit, escapePair_eq_none hpair, oneOf, hstop]
    rw [repeating_of_some hunit (length_of_unit hunit), ih, hread]

/-- A character at which the reading does not stop is read with a unit. -/
theorem exists_unit {stop : Char → Bool} {c : Char} (h : stop c = false) (rest : Text) :
    ∃ after, unit stop (c :: rest) = some after := by
  cases hpair : escapePair (c :: rest) with
  | none => exact ⟨rest, by simp [unit, hpair, oneOf, h]⟩
  | some after => exact ⟨after, by simp [unit, hpair]⟩

/-- A connector reads up to the next opener. -/
theorem connector_eq {openers : Text} {c : Char} (h : openers.contains c = false) (rest : Text) :
    connector openers (c :: rest) =
      some (Text.spanUnescaped openers.contains (c :: rest)).2 := by
  obtain ⟨after, hunit⟩ := exists_unit h rest
  rw [connector, hunit, Option.bind_some, ← repeating_of_some hunit (length_of_unit hunit),
    repeating_unit]

/-- A bracket reads past its closer, or to the end of the line. -/
theorem bracket_eq {openers : Text} {c : Char} (h : openers.contains c = true) (rest : Text) :
    bracket openers (c :: rest) =
      some ((Text.spanUnescaped (· == closerOf c) rest).2.drop 1) := by
  rw [bracket, if_pos h, repeating_unit, Option.bind_some, optional]
  cases hread : (Text.spanUnescaped (· == closerOf c) rest).2 with
  | nil => rfl
  | cons d after =>
    -- The content ends at the closer, if it ends before the line does.
    have hd := Text.stop_of_spanUnescaped hread
    simp only [oneOf, hd, if_true, Option.getD_some, List.drop_one, List.tail_cons]

/-! ## The loop -/

/-- Whether the **loop** cuts a line into the given parts. `broken` tells whether it has left at a
place where the reader fails, with all that was left as the last part. -/
inductive Cuts (openers : Text) : Text → List Text → Bool → Prop
  /-- Nothing is left. -/
  | done : Cuts openers [] [] false
  /-- The reader takes a part, and the loop goes on behind it. -/
  | step {text part rest : Text} {parts : List Text} {broken : Bool} (hne : text ≠ [])
      (hnext : next openers text = some rest) (hpart : text = part ++ rest)
      (hrest : Cuts openers rest parts broken) : Cuts openers text (part :: parts) broken
  /-- The reader fails. -/
  | giveUp {text : Text} (hne : text ≠ []) (hnext : next openers text = none) :
      Cuts openers text [text] true

/-- The reader takes the first piece of a line that is not used up. -/
theorem exists_next (openers : Text) {text : Text} (h : text ≠ []) :
    ∃ part rest, next openers text = some rest ∧ text = part ++ rest ∧
      rest.length < text.length ∧ pieces openers text = part :: pieces openers rest := by
  fun_cases pieces openers text with
  | case1 => exact absurd rfl h
  | case2 c rest hopens content hread =>
    have happend := Text.spanUnescaped_append (· == closerOf c) rest
    rw [hread, List.append_nil] at happend
    refine ⟨c :: content, [], ?_, by rw [List.append_nil, ← happend], by simp, by rw [pieces]⟩
    rw [next, bracket_eq hopens, hread]
    rfl
  | case3 c rest hopens content closer after hread =>
    have happend := Text.spanUnescaped_append (· == closerOf c) rest
    rw [hread] at happend
    refine ⟨c :: content ++ [closer], after, ?_, by simp [← happend], ?_, rfl⟩
    · rw [next, bracket_eq hopens, hread]
      rfl
    · simp only [← happend, List.length_cons, List.length_append]
      omega
  | case4 c rest hopens read =>
    have hopens' : openers.contains c = false := by simpa using hopens
    refine ⟨read.1, read.2, ?_, (Text.spanUnescaped_append _ _).symm,
      Text.length_spanUnescaped_snd_lt hopens' rest, rfl⟩
    rw [next, connector_eq hopens', bracket, if_neg hopens]
    rfl

/-- The loop ends with the pieces of a line: the reader uses up at least one character each time. -/
theorem cuts_pieces (openers text : Text) : Cuts openers text (pieces openers text) false := by
  by_cases hne : text = []
  · subst hne
    rw [pieces]
    exact .done
  · obtain ⟨part, rest, hnext, hpart, hshorter, hpieces⟩ := exists_next openers hne
    rw [hpieces]
    exact .step hne hnext hpart (cuts_pieces openers rest)
termination_by text.length

/-- The loop ends in no other way. -/
theorem Cuts.eq_pieces {openers text : Text} {parts : List Text} {broken : Bool}
    (h : Cuts openers text parts broken) : broken = false ∧ parts = pieces openers text := by
  induction h with
  | done => exact ⟨rfl, by rw [pieces]⟩
  | step hne hnext hpart _ ih =>
    obtain ⟨part', rest', hnext', hpart', -, hpieces⟩ := exists_next openers hne
    obtain rfl := Option.some.inj (hnext.symm.trans hnext')
    obtain rfl := List.append_cancel_right (hpart.symm.trans hpart')
    rw [hpieces, ih.2]
    exact ⟨ih.1, rfl⟩
  | giveUp hne hnext =>
    obtain ⟨_, _, hnext', -⟩ := exists_next openers hne
    rw [hnext] at hnext'
    cases hnext'

/-- **The loop always ends, at the end of the line, with the pieces of the line.** -/
theorem cuts_iff {openers text : Text} {parts : List Text} {broken : Bool} :
    Cuts openers text parts broken ↔ broken = false ∧ parts = pieces openers text := by
  constructor
  · exact Cuts.eq_pieces
  · rintro ⟨rfl, rfl⟩
    exact cuts_pieces openers text

end UmlSketch.Token
