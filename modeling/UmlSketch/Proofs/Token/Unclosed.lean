import UmlSketch.Proofs.Document.Places
import UmlSketch.Proofs.Text.Escapes
import UmlSketch.Proofs.Text.Trim

/-! # Brackets without closer
Read from the left, a line is outside of all brackets or inside the one that was opened last
(`Token.openAfter`). If it ends inside a bracket, its last token is this bracket, from the opener to
the end of the line (`Token.exists_tokenize_of_openAfter`). -/

namespace UmlSketch.Token

/-- The bracket that is open after a text is read from the left, if there is one; `opened?` is the one
that is open before. A backslash takes the next character with it. -/
def openAfter (openers : Text) : Option Char → Text → Option Char
  | opened?, [] => opened?
  | opened?, '\\' :: _ :: rest => openAfter openers opened? rest
  | none, c :: rest => openAfter openers (if openers.contains c then some c else none) rest
  | some opener, c :: rest =>
    openAfter openers (if c == closerOf opener then none else some opener) rest

/-- Whether the opening characters are neither backslashes nor blanks. -/
def AreOpening (openers : Text) : Prop := ∀ c ∈ openers, c ≠ '\\' ∧ Text.isBlank c = false

variable {openers : Text}

theorem closerOf_ne_backslash {c : Char} (h : c ≠ '\\') : closerOf c ≠ '\\' := by
  unfold closerOf
  split
  · decide
  split
  · decide
  split
  · decide
  · exact h

/-- An opener opens its bracket. -/
theorem openAfter_cons (hopeners : AreOpening openers) {c : Char} (h : openers.contains c = true)
    (rest : Text) : openAfter openers none (c :: rest) = openAfter openers (some c) rest := by
  have hc := (hopeners c (List.contains_iff_mem.mp h)).1
  rw [openAfter.eq_3 _ _ _ fun _ _ heq => absurd heq hc, if_pos h]

/-- Inside a bracket the reading goes on to the closer. -/
theorem openAfter_some (opener : Char) (text : Text) :
    openAfter openers (some opener) text =
      match (Text.spanUnescaped (· == closerOf opener) text).2 with
      | [] => some opener
      | _ :: after => openAfter openers none after := by
  fun_induction Text.spanUnescaped (· == closerOf opener) text with
  | case1 => rfl
  | case2 c rest read unread hread ih => rw [openAfter, ih, hread]
  | case3 c rest hpair hc => rw [openAfter.eq_4 _ _ _ _ hpair, if_pos hc]
  | case4 c rest hpair hc read unread hread ih =>
    rw [openAfter.eq_4 _ _ _ _ hpair, if_neg hc, ih, hread]

/-- Between brackets the reading goes on to the next opener. -/
theorem openAfter_none (text : Text) :
    openAfter openers none text =
      openAfter openers none (Text.spanUnescaped openers.contains text).2 := by
  fun_induction Text.spanUnescaped openers.contains text with
  | case1 => rfl
  | case2 c rest read unread hread ih => rw [openAfter, ih, hread]
  | case3 c rest hpair hc => rfl
  | case4 c rest hpair hc read unread hread ih =>
    rw [openAfter.eq_3 _ _ _ hpair, if_neg hc, ih, hread]

/-- The last piece of a line that ends inside a bracket is this bracket. -/
theorem exists_pieces_of_openAfter (hopeners : AreOpening openers) {text : Text} {opener : Char}
    (h : openAfter openers none text = some opener) :
    opener ∈ openers ∧ ∃ earlier rest, pieces openers text = earlier ++ [opener :: rest] ∧
      Text.AllEscaped (· == closerOf opener) rest := by
  fun_induction pieces openers text with
  | case1 => simp [openAfter] at h
  | case2 c rest hopens content hread =>
    rw [openAfter_cons hopeners hopens, openAfter_some, hread] at h
    obtain rfl := Option.some.inj h
    have hmem := List.contains_iff_mem.mp hopens
    have hcontent : Text.AllEscaped (· == closerOf c)
        (Text.spanUnescaped (· == closerOf c) rest).1 :=
      Text.allEscaped_spanUnescaped
        (by simpa using (closerOf_ne_backslash (hopeners c hmem).1).symm) rest
    rw [hread] at hcontent
    exact ⟨hmem, [], content, rfl, hcontent⟩
  | case3 c rest hopens content closer after hread ih =>
    rw [openAfter_cons hopeners hopens, openAfter_some, hread] at h
    obtain ⟨hmem, earlier, tail, hpieces, htail⟩ := ih h
    exact ⟨hmem, _ :: earlier, tail, by rw [hpieces]; rfl, htail⟩
  | case4 c rest hopens read ih =>
    rw [openAfter_none] at h
    obtain ⟨hmem, earlier, tail, hpieces, htail⟩ := ih h
    exact ⟨hmem, _ :: earlier, tail, by rw [hpieces]; rfl, htail⟩

/-- The tokens of two lists of pieces, one after the other. -/
theorem place_append (offset : Nat) (parts others : List Text) :
    place offset (parts ++ others) =
      place offset parts ++ place (offset + Text.byteLength parts.flatten) others := by
  induction parts generalizing offset with
  | nil => rfl
  | cons piece rest ih =>
    rw [List.cons_append, place, place, ih, List.flatten_cons, Text.byteLength_append, Nat.add_assoc]
    split <;> rfl

/-- Whether a token is a bracket without closer of a line: it starts with the opener, all closers
behind this are escaped, and only blanks at the end of the line do not belong to it. -/
def IsUnclosed (token : Token) (opener : Char) (line : Text) (offset : Nat) : Prop :=
  ∃ before rest, line = before ++ opener :: rest ∧ Text.AllEscaped (· == closerOf opener) rest ∧
    token.text = opener :: Text.trimEnd rest ∧ token.span.start = offset + Text.byteLength before

/-- **The last token of a line that ends inside a bracket is this bracket.** -/
theorem exists_tokenize_of_openAfter (hopeners : AreOpening openers) {line : Text} {opener : Char}
    (h : openAfter openers none line = some opener) (offset : Nat) :
    opener ∈ openers ∧ ∃ earlier token, tokenize openers line offset = earlier ++ [token] ∧
      token.IsUnclosed opener line offset := by
  obtain ⟨hmem, earlier, rest, hpieces, hrest⟩ := exists_pieces_of_openAfter hopeners h
  have hblank := (hopeners opener hmem).2
  have hline := flatten_pieces openers line
  rw [hpieces, List.flatten_append, List.flatten_singleton] at hline
  have htext := Text.trim_cons hblank rest
  -- The bracket is the last piece, and it starts with a character that is no blank.
  have hlast (start : Nat) : place start [opener :: rest] =
      [⟨opener :: Text.trimEnd rest,
        .ofLength start (Text.byteLength (opener :: Text.trimEnd rest))⟩] := by
    rw [place, htext, if_neg (by simp), List.takeWhile_cons_of_neg (by simp [hblank])]
    rfl
  rw [tokenize, hpieces, place_append, hlast]
  exact ⟨hmem, _, _, rfl, earlier.flatten, rest, hline.symm, hrest, rfl, rfl⟩

end UmlSketch.Token
