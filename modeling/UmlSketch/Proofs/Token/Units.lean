import UmlSketch.Proofs.Dialect.Unclosed
import UmlSketch.Proofs.Text.Marks
import UmlSketch.Proofs.Token.Loop

/-! # Units of a text
What a backslash escapes can be told in two ways. The scanner reads a text from the left in units: a
backslash together with the character after it, and every other character on its own. Seen from a
character, the backslashes right before it are counted. The two agree (`Text.isEscapedAt_iff`).

A line is cut into pieces between two units, and never within one. So no escape is open where a
token starts, and a character of the token is judged there as it is in the whole line
(`Kind.isEscapedAt_agrees`). -/

namespace UmlSketch

namespace Text

variable {text : Text}

/-! ## Reading in units -/

/-- The **units** of a text, read from the left: a backslash together with the character after it,
and otherwise one character. -/
def units : Text → List Text
  | [] => []
  | '\\' :: c :: rest => ['\\', c] :: units rest
  | c :: rest => [c] :: units rest

@[simp] theorem units_nil : units [] = [] := rfl

@[simp] theorem units_pair (c : Char) (rest : Text) :
    units ('\\' :: c :: rest) = ['\\', c] :: units rest := rfl

theorem units_cons_of_ne {c : Char} (h : c ≠ '\\') (rest : Text) :
    units (c :: rest) = [c] :: units rest :=
  units.eq_3 c rest fun _ _ heq => absurd heq h

/-- Behind a text that leaves no escape open, a new unit begins. -/
theorem units_append (h : endsEscaping text = false) (after : Text) :
    units (text ++ after) = units text ++ units after := by
  induction text using pairs_induction with
  | nil => rfl
  | backslash =>
    have hends : endsEscaping ['\\'] = true := by decide
    rw [hends] at h
    cases h
  | pair c rest ih =>
    rw [endsEscaping_pair] at h
    rw [List.cons_append, List.cons_append, units_pair, units_pair, ih h, List.cons_append]
  | char c rest hc ih =>
    rw [endsEscaping_cons_of_ne hc] at h
    rw [List.cons_append, units_cons_of_ne hc, units_cons_of_ne hc, ih h, List.cons_append]

/-! ## The second character of a unit -/

/-- Whether the character at a position is the **second of its unit**. -/
def IsSecondAt (text : Text) (position : Nat) : Prop :=
  ∃ before c after, units text = before ++ ['\\', c] :: after ∧ position = before.flatten.length + 1

/-- The second characters of a text are that of its first unit, if this is a pair, and those of the
rest. -/
theorem isSecondAt_iff_of_units {unit rest : Text} (h : units text = unit :: units rest)
    {position : Nat} :
    IsSecondAt text position ↔
      (position = 1 ∧ ∃ c, unit = ['\\', c]) ∨
        ∃ later, position = unit.length + later ∧ IsSecondAt rest later := by
  constructor
  · rintro ⟨before, c, after, hunits, hposition⟩
    rw [h] at hunits
    cases before with
    | nil => exact Or.inl ⟨hposition, c, (List.cons.inj hunits).1⟩
    | cons first more =>
      obtain ⟨rfl, hrest⟩ := List.cons.inj hunits
      rw [List.flatten_cons, List.length_append] at hposition
      exact Or.inr ⟨more.flatten.length + 1, by omega, more, c, after, hrest, rfl⟩
  · rintro (⟨rfl, c, rfl⟩ | ⟨later, rfl, before, c, after, hrest, rfl⟩)
    · exact ⟨[], c, units rest, h, rfl⟩
    · refine ⟨unit :: before, c, after, by rw [h, hrest, List.cons_append], ?_⟩
      rw [List.flatten_cons, List.length_append]
      omega

/-- In the first unit only the second character of a pair counts. -/
theorem isSecondAt_iff_in_unit {unit rest : Text} (h : units text = unit :: units rest)
    {position : Nat} (hposition : position < unit.length) :
    IsSecondAt text position ↔ position = 1 ∧ ∃ c, unit = ['\\', c] := by
  rw [isSecondAt_iff_of_units h, or_iff_left]
  rintro ⟨later, rfl, -⟩
  omega

/-- Behind the first unit the rest is read as if it stood alone. -/
theorem isSecondAt_iff_behind_unit {unit rest : Text} (h : units text = unit :: units rest)
    (later : Nat) : IsSecondAt text (later + unit.length) ↔ IsSecondAt rest later := by
  rw [isSecondAt_iff_of_units h]
  constructor
  · rintro (⟨hone, c, rfl⟩ | ⟨other, hother, hsecond⟩)
    · rw [List.length_cons, List.length_singleton] at hone
      omega
    · obtain rfl : later = other := by omega
      exact hsecond
  · exact fun hsecond => Or.inr ⟨later, Nat.add_comm _ _, hsecond⟩

/-- **A character stands behind an odd run of backslashes if it is the second of its unit.** -/
theorem isEscapedAt_iff {position : Nat} (h : position < text.length) :
    isEscapedAt text position = true ↔ IsSecondAt text position := by
  induction text using pairs_induction generalizing position with
  | nil => simp at h
  | backslash =>
    -- A backslash alone is a unit without second character.
    have hunits : units ['\\'] = ['\\'] :: units [] := rfl
    obtain rfl : position = 0 := by simpa using h
    simp [isEscapedAt, isSecondAt_iff_in_unit hunits]
  | pair c rest ih =>
    have hunits := units_pair c rest
    rcases position with _ | _ | later
    · simp [isEscapedAt, isSecondAt_iff_in_unit hunits]
    · have hends : endsEscaping ['\\'] = true := by decide
      simp [isEscapedAt, isSecondAt_iff_in_unit hunits, hends]
    · have hstate : isEscapedAt ('\\' :: c :: rest) (later + 2) = isEscapedAt rest later := by
        rw [isEscapedAt, List.take_succ_cons, List.take_succ_cons, endsEscaping_pair, isEscapedAt]
      rw [hstate, ih (by simpa using h)]
      exact (isSecondAt_iff_behind_unit hunits later).symm
  | char c rest hc ih =>
    have hunits := units_cons_of_ne hc rest
    cases position with
    | zero => simp [isEscapedAt, isSecondAt_iff_in_unit hunits]
    | succ later =>
      have hstate : isEscapedAt (c :: rest) (later + 1) = isEscapedAt rest later := by
        rw [isEscapedAt, List.take_succ_cons, endsEscaping_cons_of_ne hc, isEscapedAt]
      rw [hstate, ih (by simpa using h)]
      exact (isSecondAt_iff_behind_unit hunits later).symm

/-! ## Cutting between units -/

/-- What is read before a character that stops the reading leaves no escape open. -/
theorem endsEscaping_spanUnescaped {stop : Char → Bool} (h : (spanUnescaped stop text).2 ≠ []) :
    endsEscaping (spanUnescaped stop text).1 = false := by
  fun_induction spanUnescaped stop text with
  | case1 => rfl
  | case2 c rest read unread hread ih =>
    rw [hread] at ih
    rw [endsEscaping_pair]
    exact ih h
  | case3 => rfl
  | case4 c rest hpair hc read unread hread ih =>
    rw [hread] at ih
    have hne : c ≠ '\\' := by
      rintro rfl
      -- A backslash that takes no character with it is the last character.
      cases rest with
      | nil =>
        obtain ⟨-, rfl⟩ := Prod.mk.inj hread
        exact h rfl
      | cons d after => exact hpair d after rfl rfl
    rw [endsEscaping_cons_of_ne hne]
    exact ih h

/-- Whether texts that stand one after the other are **parted between units**: no escape is open
where one of them begins. -/
def ArePartedBetweenUnits (parts : List Text) : Prop :=
  ∀ earlier part later, parts = earlier ++ part :: later → endsEscaping earlier.flatten = false

namespace ArePartedBetweenUnits

variable {parts : List Text}

theorem nil : ArePartedBetweenUnits [] := by simp [ArePartedBetweenUnits]

/-- A text may be put in front that leaves no escape open, if anything follows it. -/
theorem cons {first : Text} (h : ArePartedBetweenUnits parts)
    (hfirst : parts ≠ [] → endsEscaping first = false) :
    ArePartedBetweenUnits (first :: parts) := by
  intro earlier part later heq
  cases earlier with
  | nil => rfl
  | cons second more =>
    obtain ⟨rfl, hrest⟩ := List.cons.inj heq
    rw [List.flatten_cons, endsEscaping_append_of_false (hfirst (by simp [hrest]))]
    exact h more part later hrest

/-- Texts that are parted between units have the units of the whole. -/
theorem flatMap_units (h : ArePartedBetweenUnits parts) :
    parts.flatMap units = units parts.flatten := by
  induction parts using List.reverseRecOn with
  | nil => rfl
  | append_singleton parts last ih =>
    have hparts : ArePartedBetweenUnits parts := by
      intro earlier part later heq
      exact h earlier part (later ++ [last]) (by rw [heq, List.append_assoc, List.cons_append])
    rw [List.flatMap_append, ih hparts, List.flatMap_singleton, List.flatten_append,
      List.flatten_singleton, units_append (h parts last [] rfl)]

end ArePartedBetweenUnits

end Text

namespace Token

variable {openers line : Text}

/-- Whether the **scanner reads** a text in the given units, one after the other. -/
inductive Scans : Text → List Text → Prop
  /-- Nothing is left. -/
  | done : Scans [] []
  /-- The reader of a unit takes the first one, and goes on behind it. -/
  | step {text first rest : Text} {others : List Text}
      (hunit : unit (fun _ => false) text = some rest) (htext : text = first ++ rest)
      (hrest : Scans rest others) : Scans text (first :: others)

/-- A text that is not empty starts with a unit for the reader. -/
theorem exists_unit_of_ne_nil {text : Text} (h : text ≠ []) :
    ∃ first rest, unit (fun _ => false) text = some rest ∧ text = first ++ rest ∧
      text.units = first :: rest.units := by
  fun_cases Text.units text with
  | case1 => exact absurd rfl h
  | case2 c rest => exact ⟨['\\', c], rest, rfl, rfl, rfl⟩
  | case3 c rest hpair =>
    refine ⟨[c], rest, ?_, rfl, rfl⟩
    simp [unit, escapePair_eq_none hpair, oneOf]

/-- Every text is read in its units, and in no other way. -/
theorem scans_iff {text : Text} {parts : List Text} : Scans text parts ↔ parts = text.units := by
  constructor
  · intro h
    induction h with
    | done => rfl
    | @step text first rest others hunit htext hrest ih =>
      have hne : text ≠ [] := by
        rintro rfl
        simp [unit, escapePair, oneOf] at hunit
      obtain ⟨first', rest', hunit', htext', hunits⟩ := exists_unit_of_ne_nil hne
      obtain rfl := Option.some.inj (hunit.symm.trans hunit')
      obtain rfl := List.append_cancel_right (htext.symm.trans htext')
      rw [hunits, ih]
  · rintro rfl
    by_cases hne : text = []
    · rw [hne]
      exact .done
    · obtain ⟨first, rest, hunit, htext, hunits⟩ := exists_unit_of_ne_nil hne
      have hshorter := length_of_unit hunit
      rw [hunits]
      exact .step hunit htext (scans_iff.mpr rfl)
termination_by text.length

/-- **The pieces of a line are parted between units.** -/
theorem arePartedBetweenUnits_pieces (hopeners : AreOpening openers) (line : Text) :
    Text.ArePartedBetweenUnits (pieces openers line) := by
  fun_induction pieces openers line with
  | case1 => exact .nil
  | case2 c rest hopens content hread => exact .cons .nil fun hne => absurd rfl hne
  | case3 c rest hopens content closer after hread ih =>
    refine .cons ih fun _ => ?_
    -- A bracket ends with its closer, which is no backslash.
    have hcloser : closer = closerOf c := by
      simpa using Text.stop_of_spanUnescaped (congrArg Prod.snd hread)
    have hopener := (hopeners c (List.contains_iff_mem.mp hopens)).1
    rw [Text.endsEscaping_concat, hcloser,
      Text.escapesNext_of_ne (closerOf_ne_backslash hopener)]
  | case4 c rest hopens read ih =>
    refine .cons ih fun hne => Text.endsEscaping_spanUnescaped fun hnil => hne ?_
    rw [show read.2 = [] from hnil, pieces]

/-- A token is a piece without the blanks at its ends. -/
theorem exists_piece_of_mem_place {offset : Nat} {parts : List Text} {token : Token}
    (h : token ∈ place offset parts) :
    ∃ earlier piece later, parts = earlier ++ piece :: later ∧ token.text = Text.trim piece ∧
      token.span.start =
        offset + Text.byteLength (earlier.flatten ++ piece.takeWhile Text.isBlank) := by
  induction parts generalizing offset with
  | nil => simp [place] at h
  | cons piece rest ih =>
    rw [place] at h
    have hlater (h : token ∈ place (offset + Text.byteLength piece) rest) :
        ∃ earlier other later, piece :: rest = earlier ++ other :: later ∧
          token.text = Text.trim other ∧ token.span.start =
            offset + Text.byteLength (earlier.flatten ++ other.takeWhile Text.isBlank) := by
      obtain ⟨earlier, other, later, rfl, htext, hstart⟩ := ih h
      refine ⟨piece :: earlier, other, later, rfl, htext, ?_⟩
      rw [hstart, List.flatten_cons, List.append_assoc, Text.byteLength_append piece, Nat.add_assoc]
    split at h
    · exact hlater h
    · rcases List.mem_cons.mp h with rfl | h
      · exact ⟨[], piece, rest, rfl, rfl, rfl⟩
      · exact hlater h

/-- Whether a token stands in a line that starts at a position of the document, and each of its
characters is judged in the line as it is in the token. -/
def IsJudgedAsIn (token : Token) (line : Text) (offset : Nat) : Prop :=
  ∃ before after, line = before ++ (token.text ++ after) ∧
    token.span.start = offset + Text.byteLength before ∧
    ∀ position < token.text.length,
      token.text.isEscapedAt position = line.isEscapedAt (before.length + position)

/-- **A token is judged as it is in its line**, since no escape is open where it starts. -/
theorem isJudgedAsIn_of_mem_tokenize (hopeners : AreOpening openers) {offset : Nat} {token : Token}
    (h : token ∈ tokenize openers line offset) : token.IsJudgedAsIn line offset := by
  obtain ⟨earlier, piece, later, hpieces, htext, hstart⟩ := exists_piece_of_mem_place h
  obtain ⟨blanks, hpiece, -⟩ := Text.exists_eq_trim_append piece
  have hline : line = (earlier.flatten ++ piece.takeWhile Text.isBlank) ++
      (token.text ++ (blanks ++ later.flatten)) := by
    have hflatten := flatten_pieces openers line
    rw [hpieces, List.flatten_append, List.flatten_cons, hpiece, ← htext] at hflatten
    simpa using hflatten.symm
  have hclosed : Text.endsEscaping (earlier.flatten ++ piece.takeWhile Text.isBlank) = false := by
    rw [Text.endsEscaping_append_of_false
      (arePartedBetweenUnits_pieces hopeners line earlier piece later hpieces)]
    refine Text.endsEscaping_of_not_mem fun hmem => ?_
    exact absurd (List.mem_takeWhile_imp hmem) (by decide)
  refine ⟨_, _, hline, hstart, fun position hposition => ?_⟩
  have htake : line.take ((earlier.flatten ++ piece.takeWhile Text.isBlank).length + position) =
      (earlier.flatten ++ piece.takeWhile Text.isBlank) ++ token.text.take position := by
    rw [hline, List.take_length_add_append, List.take_append_of_le_length hposition.le]
  rw [Text.isEscapedAt, Text.isEscapedAt, htake, Text.endsEscaping_append_of_false hclosed]

end Token

/-- **The two ways to tell an escape agree.** The scanner reads every text in its units, and a
character stands behind an odd run of backslashes if and only if it is the second of its unit. A line
of a dialect is cut between units, and a character of a token, be it a connector or a bracket, is
judged in the token as it is in the line. -/
theorem Kind.isEscapedAt_agrees (kind : Kind) :
    (∀ (text : Text) (parts : List Text), Token.Scans text parts ↔ parts = text.units) ∧
    (∀ (text : Text) (position : Nat), position < text.length →
      (text.isEscapedAt position = true ↔ text.IsSecondAt position)) ∧
    ∀ (line : Text) (offset : Nat),
      (Token.pieces kind.openers line).flatMap Text.units = line.units ∧
      ∀ token ∈ tokenize kind.openers line offset, token.IsJudgedAsIn line offset := by
  refine ⟨fun text parts => Token.scans_iff, fun text position => Text.isEscapedAt_iff,
    fun line offset => ⟨?_, fun token htoken => ?_⟩⟩
  · have hparted := Token.arePartedBetweenUnits_pieces kind.areOpening_openers line
    rw [hparted.flatMap_units, Token.flatten_pieces]
  · exact Token.isJudgedAsIn_of_mem_tokenize kind.areOpening_openers htoken

/-- A dash behind three backslashes is escaped, in the line `(a) x\\\->(b)` and in its connector. -/
theorem Kind.isEscapedAt_agrees_connector :
    (Text.IsSecondAt "(a) x\\\\\\->(b)".toList 8 ∧
        Text.isEscapedAt "(a) x\\\\\\->(b)".toList 8 = true) ∧
      (tokenize (Kind.openers .activity) "(a) x\\\\\\->(b)".toList 0)[1]? =
        some ⟨"x\\\\\\->".toList, .ofLength 4 6⟩ ∧
      Token.IsJudgedAsIn ⟨"x\\\\\\->".toList, .ofLength 4 6⟩ "(a) x\\\\\\->(b)".toList 0 := by
  obtain ⟨-, hescaped, hline⟩ := Kind.isEscapedAt_agrees .activity
  have hconnector : (tokenize (Kind.openers .activity) "(a) x\\\\\\->(b)".toList 0)[1]? =
      some ⟨"x\\\\\\->".toList, .ofLength 4 6⟩ := by decide +kernel
  have hdash : Text.isEscapedAt "(a) x\\\\\\->(b)".toList 8 = true := by decide
  exact ⟨⟨(hescaped _ 8 (by decide)).mp hdash, hdash⟩, hconnector,
    (hline _ 0).2 _ (List.mem_of_getElem? hconnector)⟩

end UmlSketch
