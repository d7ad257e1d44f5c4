import UmlSketch.Proofs.Document.Places
import UmlSketch.Proofs.Text.Trim
import UmlSketch.Proofs.Token.Loop

/-! # A document and its tokens
A document is cut into lines and its instructions into tokens, and blanks are taken off twice. Nothing
else is lost on the way and nothing is taken twice: the tokens stand in the document one behind the
other, and a character that belongs to no token is a blank or stands on a line that starts with two
slashes (`Document.tokenized_scan`). -/

namespace UmlSketch

/-- A part of a text lies between the start of the text and its end. -/
theorem Text.StandsAt.bounds {start position : Nat} {text part : Text}
    (h : StandsAt start text position part) :
    start ≤ position ∧ position + byteLength part ≤ start + byteLength text := by
  obtain ⟨before, after, rfl, rfl⟩ := h
  simp only [byteLength_append]
  omega

/-! ## Tokens of a line -/

namespace Token

/-- Whether a token starts before another, and ends where the other starts or before. -/
def Precedes (first second : Token) : Prop :=
  first.span.start < second.span.start ∧ first.span.stop ≤ second.span.start

/-- Whether a token takes all bytes of a character at a position. -/
def Covers (token : Token) (position : Nat) (c : Char) : Prop :=
  token.span.start ≤ position ∧ position + c.utf8Size ≤ token.span.stop

/-- A token takes at least one byte, and all of its bytes lie in the text that it stands in. -/
theorem StandsIn.bounds {token : Token} {start : Nat} {text : Text} (h : token.StandsIn start text) :
    start ≤ token.span.start ∧ token.span.start < token.span.stop ∧
      token.span.stop ≤ start + Text.byteLength text := by
  have hbounds := h.standsAt.bounds
  have hlength := h.length_span
  have hne : Text.byteLength token.text ≠ 0 := fun hzero => h.ne_nil (Text.byteLength_eq_zero.mp hzero)
  rw [Span.length] at hlength
  omega

/-- What ends where another token begins, at least, precedes it. -/
theorem precedes_of_standsIn {first second : Token} {start position : Nat} {text other : Text}
    (hfirst : first.StandsIn start text) (hsecond : second.StandsIn position other)
    (h : start + Text.byteLength text ≤ position) : first.Precedes second := by
  have := hfirst.bounds
  have := hsecond.bounds
  constructor <;> omega

/-- The tokens of later pieces are tokens of all pieces. -/
theorem mem_place_of_mem {offset : Nat} {piece : Text} {rest : List Text} {token : Token}
    (h : token ∈ place (offset + Text.byteLength piece) rest) :
    token ∈ place offset (piece :: rest) := by
  rw [place]
  split
  · exact h
  · exact List.mem_cons_of_mem _ h

/-- The tokens of a list of pieces are trimmed. -/
theorem isTrimmed_of_mem_place {offset : Nat} {parts : List Text} {token : Token}
    (h : token ∈ place offset parts) : token.text.IsTrimmed := by
  induction parts generalizing offset with
  | nil => simp [place] at h
  | cons piece rest ih =>
    rw [place] at h
    split at h
    · exact ih h
    · rcases List.mem_cons.mp h with rfl | h
      · exact Text.isTrimmed_trim piece
      · exact ih h

/-- The tokens of a list of pieces stand one behind the other. -/
theorem pairwise_place (offset : Nat) (parts : List Text) :
    (place offset parts).Pairwise Precedes := by
  induction parts generalizing offset with
  | nil => exact List.Pairwise.nil
  | cons piece rest ih =>
    rw [place]
    split
    · exact ih _
    · rename_i hpiece
      refine List.pairwise_cons.mpr ⟨fun later hlater => ?_, ih _⟩
      -- The first token stands in the first piece and the later ones behind this piece.
      exact precedes_of_standsIn (standsIn_trim offset hpiece) (standsIn_of_mem_place hlater) le_rfl

/-- A character of the pieces that is no blank belongs to a token. -/
theorem exists_covers_place {offset : Nat} {parts : List Text} {before after : Text} {c : Char}
    (h : parts.flatten = before ++ c :: after) (hc : Text.isBlank c = false) :
    ∃ token ∈ place offset parts, token.Covers (offset + Text.byteLength before) c := by
  induction parts generalizing offset before with
  | nil => simp at h
  | cons piece rest ih =>
    rw [List.flatten_cons] at h
    rcases Text.append_eq_append_cons_cases h with ⟨middle, hpiece, -⟩ | ⟨middle, rfl, hrest⟩
    · obtain ⟨inner, behind, htrim, hbefore⟩ := Text.exists_trim_eq hpiece hc
      rw [place, if_neg (by simp [htrim])]
      refine ⟨_, List.mem_cons_self, ?_⟩
      simp only [Covers, Span.ofLength, htrim, Text.byteLength_append, Text.byteLength_cons]
      rw [hbefore, Text.byteLength_append]
      omega
    · obtain ⟨token, hmem, hcovers⟩ := ih hrest
      refine ⟨token, mem_place_of_mem hmem, ?_⟩
      rwa [Text.byteLength_append, ← Nat.add_assoc]

end Token

/-! ## Lines of a document -/

/-- A terminator is a blank. -/
theorem Text.isBlank_of_isTerminator {c : Char} (h : isTerminator c = true) : isBlank c = true := by
  simp only [isTerminator, Bool.or_eq_true, decide_eq_true_eq] at h
  rcases h with rfl | rfl <;> decide

namespace Text

/-- The line around the place between two parts of a text. -/
def lineAround (before after : Text) : Text :=
  (before.reverse.takeWhile fun c => !isTerminator c).reverse ++
    after.takeWhile fun c => !isTerminator c

/-- What stands before a terminator is not on the line behind it. -/
theorem lineAround_append {c : Char} (hc : isTerminator c = true) (first before after : Text) :
    lineAround (first ++ c :: before) after = lineAround before after := by
  have hreverse : (first ++ c :: before).reverse = before.reverse ++ c :: first.reverse := by simp
  rw [lineAround, lineAround, hreverse, List.takeWhile_append]
  split
  · rename_i hall
    have hself := List.IsPrefix.eq_of_length (List.takeWhile_prefix _) hall
    rw [List.takeWhile_cons_of_neg (by simp [hc]), List.append_nil, hself]
  · rfl

/-- A line without terminator reaches to the next one. -/
theorem lineAround_eq {before middle rest : Text}
    (hclean : ∀ d ∈ before ++ middle, isTerminator d = false)
    (hrest : ∀ d ∈ rest.head?, isTerminator d = true) :
    lineAround before (middle ++ rest) = before ++ middle := by
  have hline : (middle ++ rest).takeWhile (fun c => !isTerminator c) = middle := by
    refine (span_append (fun d hd => ?_) fun d hd => ?_).1
    · simp [hclean d (List.mem_append_right _ hd)]
    · simp [hrest d hd]
  rw [lineAround, hline, List.takeWhile_eq_self_iff.mpr, List.reverse_reverse]
  intro d hd
  simp [hclean d (List.mem_append_left _ (List.mem_reverse.mp hd))]

end Text

namespace SourceLine

/-- The lines that stand behind a place start behind it. -/
theorem offset_le_of_mem_place {offset : Nat} {parts : List Text} {line : SourceLine}
    (h : line ∈ place offset parts) : offset ≤ line.offset := by
  induction parts generalizing offset with
  | nil => simp [place] at h
  | cons piece rest ih =>
    rcases mem_place_cons h with ⟨rfl, -⟩ | h
    · exact Nat.le_add_right _ _
    · have := ih h
      omega

/-- The lines of a document stand one behind the other. -/
theorem pairwise_place (offset : Nat) (parts : List Text) :
    (place offset parts).Pairwise fun first second =>
      first.offset + Text.byteLength first.text ≤ second.offset := by
  induction parts generalizing offset with
  | nil => exact List.Pairwise.nil
  | cons piece rest ih =>
    rw [place]
    split
    · exact ih _
    · refine List.pairwise_cons.mpr ⟨fun later hlater => ?_, ih _⟩
      have hfirst := (Text.standsAt_trim offset piece).bounds
      have hlater := offset_le_of_mem_place hlater
      dsimp only
      omega

/-- The line of a piece comes first. -/
theorem mem_place_self {piece : Text} (hpiece : Text.trim piece ≠ []) (offset : Nat)
    (rest : List Text) :
    ⟨Text.trim piece, offset + Text.byteLength (piece.takeWhile Text.isBlank)⟩ ∈
      place offset (piece :: rest) := by
  rw [place, if_neg hpiece]
  exact List.mem_cons_self

/-- The lines of later pieces are lines of all pieces. -/
theorem mem_place_of_mem {offset : Nat} {piece : Text} {rest : List Text} {line : SourceLine}
    (h : line ∈ place (offset + Text.byteLength piece + 1) rest) :
    line ∈ place offset (piece :: rest) := by
  rw [place]
  split
  · exact h
  · exact List.mem_cons_of_mem _ h

/-- Where a character stands in a line at some place of a text. -/
def Holds (line : SourceLine) (position : Nat) (c : Char) : Prop :=
  ∃ inner behind, line.text = inner ++ c :: behind ∧ position = line.offset + Text.byteLength inner

/-- A character of a piece that is no blank stands in the line of the piece. -/
theorem holds_of_piece {piece before after : Text} {c : Char} (h : piece = before ++ c :: after)
    (hc : Text.isBlank c = false) (offset : Nat) :
    Text.trim piece ≠ [] ∧
      Holds ⟨Text.trim piece, offset + Text.byteLength (piece.takeWhile Text.isBlank)⟩
        (offset + Text.byteLength before) c := by
  obtain ⟨inner, behind, htrim, hbefore⟩ := Text.exists_trim_eq h hc
  refine ⟨by simp [htrim], inner, behind, htrim, ?_⟩
  rw [hbefore, Text.byteLength_append, ← Nat.add_assoc]

/-- A character of a text that is no blank stands on one of its lines. -/
theorem exists_holds_place {offset : Nat} {text before after : Text} {c : Char}
    (h : text = before ++ c :: after) (hc : Text.isBlank c = false) :
    ∃ line ∈ place offset (Text.lines text),
      line.text = Text.trim (Text.lineAround before (c :: after)) ∧
        line.Holds (offset + Text.byteLength before) c := by
  rcases Text.lines_cases text with ⟨hlines, hclean⟩ | ⟨first, d, rest, htext, hlines, hd, hclean⟩
  · have hline : Text.lineAround before (c :: after ++ []) = before ++ c :: after :=
      Text.lineAround_eq (h ▸ hclean) (by simp)
    rw [List.append_nil, ← h] at hline
    obtain ⟨hpiece, hholds⟩ := holds_of_piece h hc offset
    rw [hlines, hline]
    exact ⟨_, mem_place_self hpiece offset [], rfl, hholds⟩
  · rw [hlines]
    rcases Text.append_eq_append_cons_cases (htext.symm.trans h) with
      ⟨middle, hfirst, rfl⟩ | ⟨middle, rfl, hrest⟩
    · -- The character stands before the first terminator.
      obtain ⟨hpiece, hholds⟩ := holds_of_piece hfirst hc offset
      have hline : Text.lineAround before (c :: middle ++ d :: rest) = before ++ c :: middle :=
        Text.lineAround_eq (hfirst ▸ hclean) (by simpa using hd)
      rw [← List.cons_append, hline, ← hfirst]
      exact ⟨_, mem_place_self hpiece offset _, rfl, hholds⟩
    · cases middle with
      | nil =>
        obtain ⟨rfl, -⟩ := List.cons.inj hrest
        rw [Text.isBlank_of_isTerminator hd] at hc
        cases hc
      | cons e inner =>
        -- The rest starts behind the first piece and the one byte of its terminator.
        obtain ⟨rfl, hafter⟩ := List.cons.inj hrest
        obtain ⟨line, hmem, hline, hholds⟩ := exists_holds_place hafter hc
        refine ⟨line, mem_place_of_mem hmem, ?_, ?_⟩
        · rw [hline, Text.lineAround_append hd]
        · rwa [Text.byteLength_append, Text.byteLength_cons, Text.utf8Size_of_isTerminator hd,
            ← Nat.add_assoc, ← Nat.add_assoc]
termination_by text.length
decreasing_by simp_all; omega

end SourceLine

/-! ## Documents -/

namespace Document

/-- Whether the place between two parts of a text is on a line that starts with two slashes. -/
def IsCommented (before after : Text) : Prop :=
  ['/', '/'] <+: Text.trim (Text.lineAround before after)

/-- The **tokens of a document**: those of its instructions, in order. -/
def tokens (document : Document) (openers : Text) : List Token :=
  document.lines.flatMap fun line => tokenize openers line.text line.offset

/-- A line is an instruction unless it starts with two slashes. -/
theorem lines_addLine (document : Document) (line : SourceLine) :
    (document.addLine line).lines =
      document.lines ++ [line].filter fun line => !line.isComment := by
  unfold addLine
  split
  · rename_i hcomment
    split <;> simp [hcomment]
  · rename_i hcomment
    simp [hcomment]

theorem lines_foldl_addLine (document : Document) (lines : List SourceLine) :
    (lines.foldl addLine document).lines =
      document.lines ++ lines.filter fun line => !line.isComment := by
  induction lines generalizing document with
  | nil => simp
  | cons line rest ih =>
    rw [List.foldl_cons, ih, lines_addLine, List.append_assoc, ← List.filter_append,
      List.singleton_append]

/-- The instructions of a document are its lines that do not start with two slashes. -/
theorem lines_scan (source : Text) (options : CompileOptions) :
    (scan source options).lines = (sourceLines source).filter fun line => !line.isComment := by
  rw [scan, lines_foldl_addLine, List.nil_append, sourceLines]

/-- How the instructions of a document and their tokens stand in the source. -/
structure Tokenized (source : Text) (document : Document) (openers : Text) : Prop where
  /-- An instruction is the slice of the source at its offset. -/
  line : ∀ line ∈ document.lines,
    Text.slice? source (.ofLength line.offset (Text.byteLength line.text)) = some line.text
  /-- The loop that cuts an instruction ends, always without an error, with the pieces of it. -/
  loop : ∀ line ∈ document.lines, ∀ parts broken,
    Token.Cuts openers line.text parts broken ↔
      broken = false ∧ parts = Token.pieces openers line.text
  /-- A token is the slice of its span. -/
  slice : ∀ token ∈ document.tokens openers, Text.slice? source token.span = some token.text
  /-- A token is not empty, and it has no blank at its ends. -/
  trimmed : ∀ token ∈ document.tokens openers, token.text ≠ [] ∧ token.text.IsTrimmed
  /-- The tokens stand one behind the other. -/
  ordered : (document.tokens openers).Pairwise Token.Precedes
  /-- Every character is a blank, or it is commented out, or it belongs to a token. -/
  covered : ∀ before c after, source = before ++ c :: after →
    Text.isBlank c = true ∨ IsCommented before (c :: after) ∨
      ∃ token ∈ document.tokens openers, token.Covers (Text.byteLength before) c

variable {source openers : Text} {options : CompileOptions}

theorem mem_sourceLines_of_mem_scan {line : SourceLine} (h : line ∈ (scan source options).lines) :
    line ∈ sourceLines source := by
  rw [lines_scan] at h
  exact List.mem_of_mem_filter h

/-- A token of a document stands in the source, at its span. -/
theorem standsIn_of_mem_tokens {token : Token}
    (h : token ∈ (scan source options).tokens openers) : token.StandsIn 0 source := by
  obtain ⟨line, hline, htoken⟩ := List.mem_flatMap.mp h
  exact (Token.standsIn_of_mem_tokenize htoken).trans
    (standsAt_of_mem_sourceLines (mem_sourceLines_of_mem_scan hline))

/-- The tokens of a document stand one behind the other. -/
theorem pairwise_tokens_scan (source openers : Text) (options : CompileOptions) :
    ((scan source options).tokens openers).Pairwise Token.Precedes := by
  rw [tokens, List.pairwise_flatMap, lines_scan]
  constructor
  · intro line _
    exact Token.pairwise_place _ _
  · refine ((SourceLine.pairwise_place 0 (Text.lines source)).filter _).imp ?_
    intro first second horder token htoken other hother
    exact Token.precedes_of_standsIn (Token.standsIn_of_mem_tokenize htoken)
      (Token.standsIn_of_mem_tokenize hother) horder

/-- A character that is no blank is commented out or belongs to a token. -/
theorem exists_covers_scan {before after : Text} {c : Char} (h : source = before ++ c :: after)
    (hc : Text.isBlank c = false) :
    IsCommented before (c :: after) ∨
      ∃ token ∈ (scan source options).tokens openers, token.Covers (Text.byteLength before) c := by
  obtain ⟨line, hmem, hline, inner, behind, htext, hposition⟩ :=
    SourceLine.exists_holds_place h hc
  rw [Nat.zero_add] at hposition
  by_cases hcomment : line.isComment = true
  · left
    rw [IsCommented, ← hline]
    exact List.isPrefixOf_iff_prefix.mp hcomment
  · right
    have hkept : line ∈ (scan source options).lines := by
      rw [lines_scan]
      exact List.mem_filter.mpr ⟨hmem, by simpa using hcomment⟩
    obtain ⟨token, htoken, hcovers⟩ := Token.exists_covers_place
      ((Token.flatten_pieces openers line.text).trans htext) hc
    exact ⟨token, List.mem_flatMap.mpr ⟨line, hkept, htoken⟩, hposition ▸ hcovers⟩

/-- **The tokens of a document and the blanks around them make up its instructions.** Each line and
each token stands where it says, the tokens follow one another without overlap, whatever the opening
characters are, and what is neither a blank nor commented out belongs to one of them. -/
theorem tokenized_scan (source openers : Text) (options : CompileOptions) :
    Tokenized source (scan source options) openers where
  line line hline :=
    (standsAt_of_mem_sourceLines (mem_sourceLines_of_mem_scan hline)).slice?_eq
      (Span.length_ofLength _ _)
  loop _ _ _ _ := Token.cuts_iff
  slice token htoken := (standsIn_of_mem_tokens htoken).slice?_eq
  trimmed token htoken := by
    refine ⟨(standsIn_of_mem_tokens htoken).ne_nil, ?_⟩
    obtain ⟨line, -, hplace⟩ := List.mem_flatMap.mp htoken
    exact Token.isTrimmed_of_mem_place hplace
  ordered := pairwise_tokens_scan source openers options
  covered before c after h := by
    cases hc : Text.isBlank c with
    | true => exact Or.inl rfl
    | false => exact Or.inr (exists_covers_scan h hc)

end Document

end UmlSketch
