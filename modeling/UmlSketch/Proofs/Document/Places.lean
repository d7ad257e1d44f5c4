import UmlSketch.Document
import UmlSketch.Proofs.Text.Slice

/-! # Places of lines and tokens
Every line that is kept of a document stands where its offset says, and every token of a line where
its span says. Offsets add up along the way: a document is cut at two terminators of one byte each,
a line and a token lose their blanks, and each of these steps is a part of what it starts from. -/

namespace UmlSketch

/-! ## Lines -/

namespace Text

/-- Whether a character ends a line. -/
def isTerminator (c : Char) : Bool := c = '\r' || c = '\n'

/-- A terminator takes one byte. -/
theorem utf8Size_of_isTerminator {c : Char} (h : isTerminator c = true) : c.utf8Size = 1 := by
  simp only [isTerminator, Bool.or_eq_true, decide_eq_true_eq] at h
  rcases h with rfl | rfl <;> rfl

/-- A text is one line without terminator, or its lines are those behind the first terminator and
what stands before it. -/
theorem lines_cases (text : Text) :
    (lines text = [text] ∧ ∀ c ∈ text, isTerminator c = false) ∨
      ∃ first c rest, text = first ++ c :: rest ∧ lines text = first :: lines rest ∧
        isTerminator c = true ∧ ∀ d ∈ first, isTerminator d = false := by
  induction text with
  | nil => exact Or.inl ⟨rfl, by simp⟩
  | cons c rest ih =>
    by_cases hc : c = '\r' ∨ c = '\n'
    · exact Or.inr ⟨[], c, rest, rfl, by rw [lines, if_pos hc], by simpa [isTerminator] using hc,
        by simp⟩
    · have hc' : isTerminator c = false := by simpa [isTerminator] using hc
      rw [lines, if_neg hc]
      rcases ih with ⟨hlines, hrest⟩ | ⟨first, d, after, rfl, hlines, hd, hfirst⟩
      · exact Or.inl ⟨by rw [hlines, consFirst_cons], List.forall_mem_cons.mpr ⟨hc', hrest⟩⟩
      · exact Or.inr ⟨c :: first, d, after, rfl, by rw [hlines, consFirst_cons], hd,
          List.forall_mem_cons.mpr ⟨hc', hfirst⟩⟩

end Text

namespace SourceLine

/-- Whether a line stands in a text at its offset. It has no terminator, and it is not empty. -/
structure StandsIn (line : SourceLine) (start : Nat) (text : Text) : Prop where
  /-- The place of the line. -/
  standsAt : Text.StandsAt start text line.offset line.text
  /-- A line is not empty. -/
  ne_nil : line.text ≠ []
  /-- A line ends before the next terminator. -/
  isTerminator_eq_false : ∀ c ∈ line.text, Text.isTerminator c = false

/-- The lines of a list of pieces are the one of the first piece and those of the others. -/
theorem mem_place_cons {offset : Nat} {piece : Text} {rest : List Text} {line : SourceLine}
    (h : line ∈ place offset (piece :: rest)) :
    (line = ⟨Text.trim piece, offset + Text.byteLength (piece.takeWhile Text.isBlank)⟩ ∧
        Text.trim piece ≠ []) ∨
      line ∈ place (offset + Text.byteLength piece + 1) rest := by
  rw [place] at h
  split at h
  · exact Or.inr h
  · rename_i hpiece
    exact (List.mem_cons.mp h).imp_left fun hline => ⟨hline, hpiece⟩

/-- A trimmed piece without terminator is a line that stands in the piece. -/
theorem standsIn_trim (start : Nat) {piece : Text} (hpiece : Text.trim piece ≠ [])
    (hclean : ∀ c ∈ piece, Text.isTerminator c = false) :
    StandsIn ⟨Text.trim piece, start + Text.byteLength (piece.takeWhile Text.isBlank)⟩ start
      piece where
  standsAt := Text.standsAt_trim start piece
  ne_nil := hpiece
  isTerminator_eq_false := fun c hc => hclean c ((Text.standsAt_trim start piece).subset hc)

/-- A line of a part of a text is a line of the text. -/
theorem StandsIn.trans {line : SourceLine} {start position : Nat} {text part : Text}
    (hpart : Text.StandsAt start text position part) (h : line.StandsIn position part) :
    line.StandsIn start text :=
  { h with standsAt := hpart.trans h.standsAt }

/-- Every line of a text stands in it. -/
theorem standsIn_of_mem_place {offset : Nat} {text : Text} {line : SourceLine}
    (h : line ∈ place offset (Text.lines text)) : line.StandsIn offset text := by
  rcases Text.lines_cases text with ⟨hlines, hclean⟩ | ⟨first, c, rest, rfl, hlines, hc, hclean⟩
  · rw [hlines] at h
    rcases mem_place_cons h with ⟨rfl, hpiece⟩ | h
    · exact standsIn_trim offset hpiece hclean
    · simp [place] at h
  · rw [hlines] at h
    rcases mem_place_cons h with ⟨rfl, hpiece⟩ | h
    · exact (standsIn_trim offset hpiece hclean).trans (Text.StandsAt.left offset first (c :: rest))
    · -- The rest starts behind the first piece and the one byte of its terminator.
      have hrest := Text.StandsAt.right offset (first ++ [c]) rest
      rw [Text.byteLength_append, Text.byteLength_cons, Text.utf8Size_of_isTerminator hc,
        Text.byteLength_nil, ← Nat.add_assoc, List.append_assoc, List.singleton_append] at hrest
      exact (standsIn_of_mem_place h).trans hrest
termination_by text.length
decreasing_by simp_all; omega

end SourceLine

/-- The **lines of a document** that are not blank, trimmed, with the positions where they start. -/
def Document.sourceLines (source : Text) : List SourceLine := SourceLine.place 0 (Text.lines source)

/-- A part of a line of a document is a part of the document. -/
theorem Document.standsAt_of_mem_sourceLines {source : Text} {line : SourceLine}
    (h : line ∈ sourceLines source) : Text.StandsAt 0 source line.offset line.text :=
  (SourceLine.standsIn_of_mem_place h).standsAt

/-! ## Tokens -/

namespace Token

/-- Whether a token stands in a text where its span says. It is not empty. -/
structure StandsIn (token : Token) (start : Nat) (text : Text) : Prop where
  /-- The place of the token. -/
  standsAt : Text.StandsAt start text token.span.start token.text
  /-- The span counts the bytes of the token. -/
  length_span : token.span.length = Text.byteLength token.text
  /-- A token is not empty. -/
  ne_nil : token.text ≠ []

/-- A token of a part of a text is a token of the text. -/
theorem StandsIn.trans {token : Token} {start position : Nat} {text part : Text}
    (hpart : Text.StandsAt start text position part) (h : token.StandsIn position part) :
    token.StandsIn start text :=
  { h with standsAt := hpart.trans h.standsAt }

/-- The span of a token of a document has the token as its slice. -/
theorem StandsIn.slice?_eq {token : Token} {text : Text} (h : token.StandsIn 0 text) :
    Text.slice? text token.span = some token.text :=
  h.standsAt.slice?_eq h.length_span

/-- The pieces of a line make up the line. -/
theorem flatten_pieces (openers line : Text) : (pieces openers line).flatten = line := by
  fun_induction pieces openers line with
  | case1 => rfl
  | case2 c rest hopens content hread =>
    have h := Text.spanUnescaped_append (· == closerOf c) rest
    rw [hread] at h
    rw [List.flatten_singleton, ← h, List.append_nil]
  | case3 c rest hopens content closer after hread ih =>
    have h := Text.spanUnescaped_append (· == closerOf c) rest
    rw [hread] at h
    rw [List.flatten_cons, ih, ← h]
    simp
  | case4 c rest hopens read ih =>
    rw [List.flatten_cons, ih]
    exact Text.spanUnescaped_append openers.contains (c :: rest)

/-- A trimmed piece is a token that stands in the piece, if anything is left of it. -/
theorem standsIn_trim (start : Nat) {piece : Text} (hpiece : Text.trim piece ≠ []) :
    StandsIn ⟨Text.trim piece, .ofLength (start + Text.byteLength (piece.takeWhile Text.isBlank))
      (Text.byteLength (Text.trim piece))⟩ start piece where
  standsAt := Text.standsAt_trim start piece
  length_span := Span.length_ofLength _ _
  ne_nil := hpiece

/-- Every token of a list of pieces stands in what the pieces make up. -/
theorem standsIn_of_mem_place {offset : Nat} {parts : List Text} {token : Token}
    (h : token ∈ place offset parts) : token.StandsIn offset parts.flatten := by
  induction parts generalizing offset with
  | nil => simp [place] at h
  | cons piece rest ih =>
    rw [place] at h
    -- The other pieces start behind the bytes of this one, whether it gives a token or not.
    have hlater (h : token ∈ place (offset + Text.byteLength piece) rest) :
        token.StandsIn offset (piece :: rest).flatten :=
      (ih h).trans (Text.StandsAt.right offset piece rest.flatten)
    split at h
    · exact hlater h
    · rename_i hpiece
      rcases List.mem_cons.mp h with rfl | h
      · exact (standsIn_trim offset hpiece).trans (Text.StandsAt.left offset piece rest.flatten)
      · exact hlater h

/-- The texts of the tokens of a list of pieces are the pieces, trimmed, if anything is left of them.
They do not depend on where the pieces stand. -/
theorem map_text_place (offset : Nat) (parts : List Text) :
    (place offset parts).map Token.text = (parts.map Text.trim).filter (· ≠ []) := by
  induction parts generalizing offset with
  | nil => rfl
  | cons piece rest ih =>
    rw [place, List.map_cons]
    by_cases hpiece : Text.trim piece = []
    · rw [if_pos hpiece, List.filter_cons_of_neg (by simp [hpiece]), ih]
    · rw [if_neg hpiece, List.filter_cons_of_pos (by simp [hpiece]), List.map_cons, ih]

/-- The texts of the tokens of a line. -/
def textsOf (openers line : Text) : List Text :=
  ((pieces openers line).map Text.trim).filter (· ≠ [])

theorem map_text_tokenize (openers line : Text) (offset : Nat) :
    (tokenize openers line offset).map Token.text = textsOf openers line :=
  map_text_place offset (pieces openers line)

/-- Every token of a line stands in the line. -/
theorem standsIn_of_mem_tokenize {openers line : Text} {offset : Nat} {token : Token}
    (h : token ∈ tokenize openers line offset) : token.StandsIn offset line := by
  have hplace := standsIn_of_mem_place h
  rwa [flatten_pieces] at hplace

end Token

end UmlSketch
