import Mathlib.Data.List.TakeWhile
import UmlSketch.Proofs.Text.Slice

/-! # Trimmed texts
`Text.trim` takes blanks off the two ends of a text and nothing else: what it leaves has no blank at
an end (`Text.isTrimmed_trim`), and every other character of the text is still there, at its distance
from the blanks at the start (`Text.exists_trim_eq`). -/

namespace UmlSketch.Text

/-! ## Runs of characters -/

/-- A run of characters of one kind is taken off the start of a text as a whole, if the next character is
of another kind. -/
theorem span_append {isIn : Char → Bool} {run rest : Text} (hrun : ∀ c ∈ run, isIn c = true)
    (hrest : ∀ c ∈ rest.head?, isIn c = false) :
    (run ++ rest).takeWhile isIn = run ∧ (run ++ rest).dropWhile isIn = rest := by
  rw [List.takeWhile_append_of_pos hrun, List.dropWhile_append_of_pos hrun]
  cases rest with
  | nil => exact ⟨List.append_nil run, rfl⟩
  | cons c behind =>
    have hc : ¬ isIn c = true := by simp [hrest c rfl]
    rw [List.takeWhile_cons_of_neg hc, List.dropWhile_cons_of_neg hc, List.append_nil]
    exact ⟨rfl, rfl⟩

/-- Nothing is taken off a text that starts with a character of another kind. -/
theorem span_of_head? {isIn : Char → Bool} {text : Text} (h : ∀ c ∈ text.head?, isIn c = false) :
    text.takeWhile isIn = [] ∧ text.dropWhile isIn = text := span_append (List.forall_mem_nil _) h

/-! ## Texts without blanks at their ends -/

/-- Whether a text has no blank at its ends. -/
structure IsTrimmed (text : Text) : Prop where
  /-- The first character is no blank. -/
  head : ∀ c ∈ text.head?, isBlank c = false
  /-- The last character is no blank. -/
  last : ∀ c ∈ text.getLast?, isBlank c = false

/-- The first character behind the blanks at the start is no blank. -/
theorem isBlank_of_mem_head?_trimStart {text : Text} :
    ∀ c ∈ (trimStart text).head?, isBlank c = false := by
  intro c hc
  have h := List.head?_dropWhile_not isBlank text
  rw [trimStart, Option.mem_def] at hc
  rwa [hc] at h

/-- The text is what is left when the blanks at the end are taken off, and these blanks. -/
theorem exists_eq_trimEnd_append (text : Text) :
    ∃ blanks, text = trimEnd text ++ blanks ∧ ∀ c ∈ blanks, isBlank c = true := by
  refine ⟨(text.reverse.takeWhile isBlank).reverse, ?_, ?_⟩
  · rw [trimEnd, ← List.reverse_append, List.takeWhile_append_dropWhile, List.reverse_reverse]
  · intro c hc
    exact List.mem_takeWhile_imp (List.mem_reverse.mp hc)

/-- The blanks at the start of a text are before the first other character. -/
theorem trimStart_append {rest : Text} (hrest : ∀ c ∈ rest.head?, isBlank c = false) (front : Text) :
    trimStart (front ++ rest) = trimStart front ++ rest := by
  rw [trimStart, List.dropWhile_append, (span_of_head? hrest).2, trimStart]
  split
  · rename_i hempty
    rw [List.isEmpty_iff.mp hempty, List.nil_append]
  · rfl

/-- The blanks at the end of a text are behind the last other character. -/
theorem trimEnd_append_of_last {front : Text} (hfront : ∀ c ∈ front.getLast?, isBlank c = false)
    (back : Text) : trimEnd (front ++ back) = front ++ trimEnd back := by
  have hreverse : ∀ c ∈ front.reverse.head?, isBlank c = false := by
    rwa [List.head?_reverse]
  have hstart := trimStart_append hreverse back.reverse
  rw [trimStart, trimStart] at hstart
  rw [trimEnd, List.reverse_append, hstart, List.reverse_append, List.reverse_reverse, trimEnd]

/-- The blanks at the end of a text are taken off and nothing else. -/
theorem trimEnd_append {text blanks : Text} (hlast : ∀ c ∈ text.getLast?, isBlank c = false)
    (hblanks : ∀ c ∈ blanks, isBlank c = true) : trimEnd (text ++ blanks) = text := by
  have hnone : trimEnd blanks = [] := by
    rw [trimEnd, List.dropWhile_eq_nil_iff.mpr fun c hc => hblanks c (List.mem_reverse.mp hc),
      List.reverse_nil]
  rw [trimEnd_append_of_last hlast, hnone, List.append_nil]

theorem isTrimmed_trim (text : Text) : IsTrimmed (trim text) where
  head := by
    intro c hc
    obtain ⟨blanks, heq, -⟩ := exists_eq_trimEnd_append (trimStart text)
    apply isBlank_of_mem_head?_trimStart c
    rw [trim] at hc
    rw [heq, Option.mem_def, List.head?_append, Option.mem_def.mp hc, Option.some_or]
  last := by
    intro c hc
    rw [trim, trimEnd, List.getLast?_reverse] at hc
    have h := List.head?_dropWhile_not isBlank (trimStart text).reverse
    rwa [Option.mem_def.mp hc] at h

/-- A text is what is left of it when it is trimmed, between the blanks at its ends. -/
theorem exists_eq_trim_append (text : Text) :
    ∃ blanks, text = text.takeWhile isBlank ++ (trim text ++ blanks) ∧
      ∀ c ∈ blanks, isBlank c = true := by
  obtain ⟨blanks, heq, hblanks⟩ := exists_eq_trimEnd_append (trimStart text)
  refine ⟨blanks, ?_, hblanks⟩
  rw [trim, ← heq, trimStart, List.takeWhile_append_dropWhile]

/-- The blanks at the end of a text that starts with another character are behind this character. -/
theorem trimEnd_cons {c : Char} (hc : isBlank c = false) (rest : Text) :
    trimEnd (c :: rest) = c :: trimEnd rest :=
  trimEnd_append_of_last (show ∀ d ∈ [c].getLast?, isBlank d = false by simpa using hc) rest

theorem trim_cons {c : Char} (hc : isBlank c = false) (rest : Text) :
    trim (c :: rest) = c :: trimEnd rest := by
  rw [trim, trimStart, List.dropWhile_cons_of_neg (by simp [hc]), trimEnd_cons hc]

/-- What stands between blanks is left, if it has no blank at its ends. -/
theorem trim_append {lead middle blanks : Text} (hlead : ∀ c ∈ lead, isBlank c = true)
    (hmiddle : IsTrimmed middle) (hblanks : ∀ c ∈ blanks, isBlank c = true) :
    trim (lead ++ (middle ++ blanks)) = middle := by
  rw [trim, trimStart, List.dropWhile_append_of_pos hlead]
  cases middle with
  | nil => rw [List.nil_append, List.dropWhile_eq_nil_iff.mpr hblanks, trimEnd_nil]
  | cons c rest =>
    have hc : isBlank c = false := hmiddle.head c rfl
    rw [List.cons_append, List.dropWhile_cons_of_neg (by simp [hc]), ← List.cons_append,
      trimEnd_append hmiddle.last hblanks]

/-- Nothing is left of blanks. -/
theorem trim_of_isBlank {text : Text} (h : ∀ c ∈ text, isBlank c = true) : trim text = [] := by
  rw [trim, trimStart, List.dropWhile_eq_nil_iff.mpr h, trimEnd_nil]

/-- A text without a blank at its ends stays as it is. -/
theorem IsTrimmed.trim_eq {text : Text} (h : IsTrimmed text) : trim text = text := by
  have htext := trim_append (List.forall_mem_nil _) h (List.forall_mem_nil _)
  rwa [List.nil_append, List.append_nil] at htext

/-- A text that stays as it is has no blank at its ends. -/
theorem IsTrimmed.of_trim_eq {text : Text} (h : trim text = text) : IsTrimmed text :=
  h ▸ isTrimmed_trim text

/-- A text without blanks is trimmed. -/
theorem trim_of_not_isBlank {text : Text} (h : ∀ c ∈ text, isBlank c = false) : trim text = text :=
  IsTrimmed.trim_eq ⟨fun c hc => h c (List.mem_of_mem_head? hc), fun c hc =>
    h c (List.mem_of_getLast? hc)⟩

/-- Blanks around a text make no difference when it is trimmed. -/
theorem trim_blanks_append {lead blanks : Text} (hlead : ∀ c ∈ lead, isBlank c = true) (text : Text)
    (hblanks : ∀ c ∈ blanks, isBlank c = true) : trim (lead ++ (text ++ blanks)) = trim text := by
  obtain ⟨trail, heq, htrail⟩ := exists_eq_trim_append text
  have htext : lead ++ (text ++ blanks) =
      (lead ++ text.takeWhile isBlank) ++ (trim text ++ (trail ++ blanks)) := by
    have happend := congrArg (fun whole => lead ++ (whole ++ blanks)) heq
    simpa only [List.append_assoc] using happend
  rw [htext]
  refine trim_append ?_ (isTrimmed_trim text) (List.forall_mem_append.mpr ⟨htrail, hblanks⟩)
  exact List.forall_mem_append.mpr ⟨hlead, fun c hc => List.mem_takeWhile_imp hc⟩

/-- Blanks behind a text make no difference when it is trimmed. -/
theorem trim_append_blanks {text blanks : Text} (h : ∀ c ∈ blanks, isBlank c = true) :
    trim (text ++ blanks) = trim text := trim_blanks_append (List.forall_mem_nil _) text h

/-- Texts without blanks at their ends, one after the other, have none at their ends. -/
theorem IsTrimmed.append {first second : Text} (hfirst : IsTrimmed first) (hsecond : IsTrimmed second) :
    IsTrimmed (first ++ second) where
  head := by
    intro c hc
    rw [List.head?_append, Option.mem_def, Option.or_eq_some_iff] at hc
    exact hc.elim (hfirst.head c) fun h => hsecond.head c h.2
  last := by
    intro c hc
    rw [List.getLast?_append, Option.mem_def, Option.or_eq_some_iff] at hc
    exact hc.elim (hsecond.last c) fun h => hfirst.last c h.2

/-- A part without a blank at its ends is kept when a text is trimmed. -/
theorem IsTrimmed.infix_trim {part text : Text} (hpart : IsTrimmed part) (h : part <:+: text) :
    part <:+: trim text := by
  by_cases hne : part = []
  · rw [hne]
    exact List.nil_infix
  obtain ⟨front, back, rfl⟩ := h
  -- At either end the part stops what is taken off.
  have hhead : ∀ c ∈ (part ++ back).head?, isBlank c = false := by
    cases part with
    | nil => exact absurd rfl hne
    | cons c rest => exact hpart.head
  have hlast : ∀ c ∈ (trimStart front ++ part).getLast?, isBlank c = false := by
    intro c hc
    rw [List.getLast?_append, Option.mem_def, Option.or_eq_some_iff] at hc
    rcases hc with hc | ⟨hnone, -⟩
    · exact hpart.last c hc
    · exact absurd (List.getLast?_eq_none_iff.mp hnone) hne
  have htrim : trim (front ++ part ++ back) = trimStart front ++ part ++ trimEnd back := by
    rw [trim, List.append_assoc, trimStart_append hhead, ← List.append_assoc,
      trimEnd_append_of_last hlast]
  rw [htrim]
  exact ⟨_, _, rfl⟩

/-! ## Characters of a part -/

/-- A character of two parts, one after the other, is a character of the first or of the second. -/
theorem append_eq_append_cons_cases {first second before after : Text} {c : Char}
    (h : first ++ second = before ++ c :: after) :
    (∃ middle, first = before ++ c :: middle ∧ after = middle ++ second) ∨
      ∃ middle, before = first ++ middle ∧ second = middle ++ c :: after := by
  rcases List.append_eq_append_iff.mp h with ⟨middle, rfl, rfl⟩ | ⟨middle, rfl, hsecond⟩
  · exact Or.inr ⟨middle, rfl, rfl⟩
  · cases middle with
    | nil => exact Or.inr ⟨[], by simp, by simpa using hsecond.symm⟩
    | cons d rest =>
      obtain ⟨rfl, rfl⟩ := List.cons.inj hsecond
      exact Or.inl ⟨rest, rfl, rfl⟩

/-- A character of a text that is no blank is left when the text is trimmed. -/
theorem exists_trim_eq {text before after : Text} {c : Char} (h : text = before ++ c :: after)
    (hc : isBlank c = false) :
    ∃ inner behind, trim text = inner ++ c :: behind ∧
      before = text.takeWhile isBlank ++ inner := by
  obtain ⟨blanks, heq, hblanks⟩ := exists_eq_trim_append text
  rcases append_eq_append_cons_cases (heq.symm.trans h) with ⟨middle, hlead, -⟩ | ⟨inner, hbefore, hrest⟩
  · -- The blanks at the start do not hold the character.
    have hmem : c ∈ text.takeWhile isBlank := by simp [hlead]
    rw [List.mem_takeWhile_imp hmem] at hc
    cases hc
  · rcases append_eq_append_cons_cases hrest with ⟨behind, htrim, -⟩ | ⟨middle, -, hend⟩
    · exact ⟨inner, behind, htrim, hbefore⟩
    · -- Nor do those at the end.
      rw [hblanks c (by simp [hend])] at hc
      cases hc

end UmlSketch.Text
