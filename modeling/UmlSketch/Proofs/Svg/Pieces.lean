import UmlSketch.Proofs.Dialect.Texts
import UmlSketch.Proofs.Svg.Marked

/-! # Drawings made of pieces
A drawing can be written piece by piece: text elements, and between them characters and complete tags
of other elements. Embedding pictures in a piece replaces a text element whose own content starts with
a complete mark, and keeps everything else. In a whole drawing this is done piece by piece exactly if
no text element leaves a mark unfinished that what is written behind it closes
(`embedPictures_written_iff`). A mark that is closed so takes everything up to its closing brace, the
end tag of its own element included, for the name of a picture. -/

namespace UmlSketch.Svg

/-! ## Text elements -/

/-- A **text element**, `<text tag>content</text>`. -/
structure TextElement where
  /-- What stands between the name and the end of the start tag: nothing, or a blank and attributes. -/
  tag : Text
  /-- What stands between the tags. -/
  content : Text
  isBlank_head : tag.head?.all Text.isBlank = true
  not_mem_tag : '>' ∉ tag
  not_mem_content : '<' ∉ content

namespace TextElement

/-- How a text element is written. -/
def written (element : TextElement) : Text :=
  "<text".toList ++ element.tag ++ '>' :: (element.content ++ "</text>".toList)

/-- The element as a marked text, if it has attributes and its content starts with a complete mark. -/
def mark? (element : TextElement) : Option MarkedText :=
  match element.tag with
  | [] => none
  | _ :: attributes =>
    (Text.dropStart? "\x7bimg:".toList element.content).bind fun inMark =>
      (Text.dropStart? ['\x7d'] (inMark.dropWhile (· ≠ '\x7d'))).map fun label =>
        ⟨attributes, inMark.takeWhile (· ≠ '\x7d'), label⟩

/-- A text element with its mark replaced. -/
def embedded (element : TextElement) (dark : Bool) : Text :=
  (element.mark?.bind fun marked => marked.replacement? dark).getD element.written

/-- Whether an element **overruns** what is written behind it: its content starts with a mark that only
a brace behind the element closes. The element is then taken, together with everything up to the end
of the text element around that brace, for one marked text. -/
structure Overruns (element : TextElement) (marked : MarkedText) (rest after : Text) : Prop where
  tag : ∃ blank, element.tag = blank :: marked.attributes
  name : ∃ unfinished between, element.content = "\x7bimg:".toList ++ unfinished ∧
    '\x7d' ∉ unfinished ∧ marked.name = unfinished ++ "</text>".toList ++ between ∧
    '\x7d' ∉ between ∧
    rest = between ++ '\x7d' :: marked.label ++ "</text>".toList ++ after
  label : '<' ∉ marked.label

/-- Whether an element overruns what is written behind it in some way. -/
def RunsInto (element : TextElement) (rest : Text) : Prop :=
  ∃ marked after, element.Overruns marked rest after

variable {element : TextElement} {marked : MarkedText} {rest after : Text} {dark : Bool}

theorem mark?_eq_some_iff :
    element.mark? = some marked ↔
      ∃ blank, element.tag = blank :: marked.attributes ∧
        element.content = "\x7bimg:".toList ++ marked.name ++ '\x7d' :: marked.label ∧
        '\x7d' ∉ marked.name := by
  obtain ⟨attributes, name, label⟩ := marked
  unfold mark?
  cases element.tag with
  | nil => simp
  | cons blank tag =>
    simp only [Option.bind_eq_some_iff, Option.map_eq_some_iff, MarkedText.mk.injEq,
      Text.dropStart?_eq_some_iff, List.cons.injEq]
    constructor
    · rintro ⟨inMark, hcontent, _, hbrace, rfl, htake, rfl⟩
      obtain ⟨hname, rfl⟩ := Text.takeWhile_dropStart?_iff.mp
        ⟨htake, Text.dropStart?_eq_some_iff.mpr hbrace⟩
      exact ⟨blank, ⟨rfl, rfl⟩, by simpa using hcontent, hname⟩
    · rintro ⟨_, ⟨rfl, rfl⟩, hcontent, hname⟩
      obtain ⟨htake, hdrop⟩ := Text.takeWhile_dropStart?_iff.mpr
        (⟨hname, rfl⟩ : _ ∧ _ = name ++ '\x7d' :: [] ++ label)
      exact ⟨name ++ '\x7d' :: [] ++ label, by simpa using hcontent, label,
        Text.dropStart?_eq_some_iff.mp hdrop, rfl, htake, rfl⟩

theorem written_eq (element : TextElement) :
    element.written =
      "<text".toList ++ element.tag ++ '>' :: (element.content ++ "</text>".toList) := rfl

theorem written_append (element : TextElement) (rest : Text) :
    element.written ++ rest =
      "<text".toList ++ element.tag ++ '>' :: (element.content ++ "</text>".toList ++ rest) := by
  rw [written_eq, List.append_assoc, List.cons_append]

/-- A text element is read as a marked text if its mark is complete, or if it overruns what follows. -/
theorem ofStart?_written_append :
    MarkedText.ofStart? (element.written ++ rest) = some (marked, after) ↔
      (element.mark? = some marked ∧ after = rest) ∨ element.Overruns marked rest after := by
  obtain ⟨tag, content, hhead, htag, hcontent⟩ := element
  rw [mark?_eq_some_iff, written_append]
  cases tag with
  | nil =>
    constructor
    · intro h
      obtain ⟨blank, tail, hblank, -, heq, -⟩ := MarkedText.ofStart?_eq_some_iff.mp h
      have hnext {start behind : Text}
          (hsame : start ++ [] ++ '>' :: behind = start ++ blank :: marked.attributes ++ '>' :: tail) :
          '>' = blank := by
        rw [List.append_nil, List.append_assoc] at hsame
        exact (List.cons.inj (List.append_cancel_left hsame)).1
      exact absurd (hnext heq) (MarkedText.ne_of_isBlank hblank)
    · rintro (⟨⟨blank, h, -⟩, -⟩ | ⟨⟨blank, h⟩, -, -⟩) <;> cases h
  | cons blank attributes =>
    have hblank : Text.isBlank blank = true := hhead
    have hattributes : '>' ∉ attributes := fun h => htag (List.mem_cons_of_mem blank h)
    rw [MarkedText.ofStart?_tag_eq_some_iff hblank hattributes,
      MarkedText.opens_iff_of_content hcontent]
    constructor
    · rintro ⟨rfl, ⟨hown, hname, rfl⟩ |
        ⟨unfinished, between, hown, hunfinished, hname, hbetween, hlabel, hrest⟩⟩
      · exact .inl ⟨⟨blank, rfl, hown, hname⟩, rfl⟩
      · exact .inr ⟨⟨blank, rfl⟩,
          ⟨unfinished, between, hown, hunfinished, hname, hbetween, hrest⟩, hlabel⟩
    · rintro (⟨⟨_, htags, hown, hname⟩, rfl⟩ |
        ⟨⟨_, htags⟩, ⟨unfinished, between, hown, hunfinished, hname, hbetween, hrest⟩, hlabel⟩)
      · exact ⟨(List.cons.inj htags).2.symm, .inl ⟨hown, hname, rfl⟩⟩
      · exact ⟨(List.cons.inj htags).2.symm,
          .inr ⟨unfinished, between, hown, hunfinished, hname, hbetween, hlabel, hrest⟩⟩

/-- Nothing but the whole of a text element is read as a marked text. -/
theorem ofStart?_suffix_of_none (h : MarkedText.ofStart? (element.written ++ rest) = none)
    {before inner : Text} (hinner : "<text".toList ++ element.tag = before ++ inner) :
    MarkedText.ofStart? (inner ++ '>' :: (element.content ++ "</text>".toList ++ rest)) = none := by
  obtain ⟨tag, content, hhead, htag, hcontent⟩ := element
  have hinnerTag : '>' ∉ inner := fun hmem => by
    have hmem : '>' ∈ "<text".toList ++ tag := hinner ▸ List.mem_append_right before hmem
    simp [htag] at hmem
  by_contra hsome
  obtain ⟨⟨marked, after⟩, hsome⟩ := Option.ne_none_iff_exists'.mp hsome
  obtain ⟨blank, tail, hblank, hattributes, heq, htail⟩ := MarkedText.ofStart?_eq_some_iff.mp hsome
  obtain ⟨rfl, rfl⟩ := Text.append_cons_inj hinnerTag
    (by simp [hattributes, MarkedText.ne_of_isBlank hblank]) heq
  -- The marked text starts inside of the start tag, so the element has attributes, and it is read as a
  -- marked text itself.
  cases tag with
  | nil =>
    have hlength := congrArg List.length hinner
    simp at hlength
    omega
  | cons blank' attributes =>
    have hmarked : MarkedText.ofStart? ("<text".toList ++ blank' :: attributes ++
        '>' :: (content ++ "</text>".toList ++ rest)) =
          some (⟨attributes, marked.name, marked.label⟩, after) :=
      (MarkedText.ofStart?_tag_eq_some_iff hhead fun hmem =>
        htag (List.mem_cons_of_mem blank' hmem)).mpr ⟨rfl, htail.eq, htail.name, htail.label⟩
    rw [written_append, hmarked] at h
    cases h

end TextElement

/-! ## Characters and other tags -/

/-- Whether a text starts with the start tag of a text element with attributes. -/
def opensText (text : Text) : Bool :=
  match Text.dropStart? "<text".toList text with
  | some (c :: _) => Text.isBlank c
  | _ => false

/-- Whether a text is **plain**: its tags are complete, and none of them starts a text element with
attributes. -/
def isPlain : Text → Bool
  | [] => true
  | c :: rest => (c ≠ '<' || (rest.contains '>' && !opensText (c :: rest))) && isPlain rest

section Plain

variable {front rest run : Text} {c : Char}

theorem isPlain_cons :
    isPlain (c :: run) = true ↔
      (c = '<' → '>' ∈ run ∧ opensText (c :: run) = false) ∧ isPlain run = true := by
  by_cases hc : c = '<' <;> simp [isPlain, hc]

/-- The end of a plain text is plain. -/
theorem isPlain_of_append (h : isPlain (front ++ rest) = true) : isPlain rest = true := by
  induction front with
  | nil => exact h
  | cons c front ih => exact ih (isPlain_cons.mp h).2

/-- Characters that open no tag are plain. -/
theorem isPlain_append_of_not_mem (hfront : '<' ∉ front) (h : isPlain rest = true) :
    isPlain (front ++ rest) = true := by
  induction front with
  | nil => exact h
  | cons c front ih =>
    obtain ⟨hc, hfront⟩ := not_or.mp fun hmem => hfront (List.mem_cons.mpr hmem)
    exact isPlain_cons.mpr ⟨fun h => absurd h.symm hc, ih hfront⟩

/-- No marked text starts in a plain text. -/
theorem ofStart?_append_of_isPlain (h : isPlain (c :: run) = true) (rest : Text) :
    MarkedText.ofStart? (c :: run ++ rest) = none := by
  by_contra hsome
  obtain ⟨⟨marked, after⟩, hsome⟩ := Option.ne_none_iff_exists'.mp hsome
  obtain ⟨blank, tail, hblank, hattributes, heq, -⟩ := MarkedText.ofStart?_eq_some_iff.mp hsome
  obtain rfl : c = '<' := (List.cons.inj heq).1
  obtain ⟨hclosed, hopens⟩ := (isPlain_cons.mp h).1 rfl
  -- The start tag of the marked text ends with the first closing bracket, which the plain text has.
  obtain ⟨inTag, behind, rfl, hinTag⟩ := List.eq_append_cons_of_mem hclosed
  have hcut : ('<' :: inTag) ++ '>' :: (behind ++ rest) =
      ("<text".toList ++ blank :: marked.attributes) ++ '>' :: tail := by simpa using heq
  obtain ⟨htag, -⟩ := Text.append_cons_inj (by simp [hinTag])
    (by simp [hattributes, MarkedText.ne_of_isBlank hblank]) hcut
  have hstart : Text.dropStart? "<text".toList ('<' :: (inTag ++ '>' :: behind)) =
      some (blank :: (marked.attributes ++ '>' :: behind)) := by
    rw [Text.dropStart?_eq_some_iff, ← List.cons_append, htag]
    simp
  rw [opensText, hstart] at hopens
  exact absurd hblank (by simpa using hopens)

/-- A plain text is kept. -/
theorem embedFrom_append_of_isPlain (h : isPlain run = true) (rest : Text) (dark : Bool) :
    embedFrom dark 0 (run ++ rest) = run ++ embedFrom dark 0 rest := by
  induction run with
  | nil => rfl
  | cons c run ih =>
    have hnone : MarkedText.ofStart? (c :: (run ++ rest)) = none := ofStart?_append_of_isPlain h rest
    rw [List.cons_append, embedFrom_cons_of_none hnone, ih (isPlain_cons.mp h).2, List.cons_append]

end Plain

/-! ## Replacing at a text element -/

namespace TextElement

variable {element : TextElement} {marked : MarkedText} {rest after : Text} {dark : Bool}

/-- What follows the start tag of a text element is plain. -/
theorem isPlain_behind_tag (element : TextElement) :
    isPlain (element.content ++ "</text>".toList) = true :=
  isPlain_append_of_not_mem element.not_mem_content (by decide)

/-- Characters at which no marked text starts are kept. -/
theorem embedFrom_append_of_forall_none {front back : Text}
    (h : ∀ before inner, front = before ++ inner → MarkedText.ofStart? (inner ++ back) = none)
    (dark : Bool) : embedFrom dark 0 (front ++ back) = front ++ embedFrom dark 0 back := by
  induction front with
  | nil => rfl
  | cons c front ih =>
    have hnone : MarkedText.ofStart? (c :: (front ++ back)) = none := h [] (c :: front) rfl
    have hfront := ih fun before inner hinner => h (c :: before) inner (congrArg (c :: ·) hinner)
    rw [List.cons_append, embedFrom_cons_of_none hnone, hfront, List.cons_append]

/-- A text element that is not read as a marked text is kept. -/
theorem embedFrom_append_of_none (h : MarkedText.ofStart? (element.written ++ rest) = none) :
    embedFrom dark 0 (element.written ++ rest) = element.written ++ embedFrom dark 0 rest := by
  have hbehind : isPlain ('>' :: (element.content ++ "</text>".toList)) = true :=
    isPlain_cons.mpr ⟨fun h => absurd h (by decide), element.isPlain_behind_tag⟩
  have htag := embedFrom_append_of_forall_none (fun _ _ hinner => ofStart?_suffix_of_none h hinner) dark
  have hplain := embedFrom_append_of_isPlain hbehind rest dark
  simp only [written_eq, List.append_assoc, List.cons_append] at htag hplain ⊢
  rw [htag, hplain]

/-- A text element that does not overrun what follows is replaced on its own. -/
theorem embedFrom_append_of_not_runsInto (h : ¬ element.RunsInto rest) :
    embedFrom dark 0 (element.written ++ rest) = element.embedded dark ++ embedFrom dark 0 rest := by
  cases hstart : MarkedText.ofStart? (element.written ++ rest) with
  | none =>
    have hmark : element.mark? = none := by
      by_contra hsome
      obtain ⟨marked, hsome⟩ := Option.ne_none_iff_exists'.mp hsome
      rw [ofStart?_written_append.mpr (.inl ⟨hsome, rfl⟩)] at hstart
      cases hstart
    rw [embedFrom_append_of_none hstart, embedded, hmark, Option.bind_none, Option.getD_none]
  | some result =>
    obtain ⟨marked, after⟩ := result
    rcases ofStart?_written_append.mp hstart with ⟨hmark, rfl⟩ | hoverruns
    · rw [embedFrom_append_of_some (by simp [written_eq]) hstart, embedded, hmark, Option.bind_some]
    · exact absurd ⟨marked, after, hoverruns⟩ h

/-- The name of a mark that overruns its element is none of a picture. -/
theorem Overruns.replacement? (h : element.Overruns marked rest after) :
    marked.replacement? dark = some ("<text".toList ++ ' ' :: marked.attributes ++
      '>' :: Text.trim marked.label ++ "</text>".toList) := by
  obtain ⟨unfinished, between, -, -, hname, -⟩ := h.name
  have hnone : Picture.named? marked.name = none := by
    rw [Picture.named?, if_neg]
    intro hactor
    have hmem : '<' ∈ marked.name := by simp [hname]
    rw [hactor] at hmem
    exact absurd hmem (by decide)
  rw [MarkedText.replacement?, hnone]

/-- A text element that overruns what follows is replaced together with it: what stands between its
mark and the label behind the closing brace is lost. -/
theorem embedFrom_append_of_overruns (h : element.Overruns marked rest after) :
    embedFrom dark 0 (element.written ++ rest) =
      "<text".toList ++ ' ' :: marked.attributes ++ '>' :: Text.trim marked.label ++ "</text>".toList ++
        embedFrom dark 0 after := by
  have hstart := ofStart?_written_append.mpr (.inr h)
  obtain ⟨blank, tail, -, -, hwhole, htail⟩ := MarkedText.ofStart?_eq_some_iff.mp hstart
  have hmatched : element.written ++ rest = ("<text".toList ++ blank :: marked.attributes ++
      '>' :: ("\x7bimg:".toList ++ marked.name ++ '\x7d' :: marked.label ++ "</text>".toList)) ++
        after := by
    rw [hwhole, htail.eq]
    simp
  rw [hmatched] at hstart ⊢
  rw [embedFrom_append_of_some (by simp) hstart, h.replacement?, Option.getD_some]

/-- An element that overruns what follows has no complete mark of its own. -/
theorem Overruns.embedded (h : element.Overruns marked rest after) :
    element.embedded dark = element.written := by
  have hnone : element.mark? = none := by
    by_contra hsome
    obtain ⟨own, hsome⟩ := Option.ne_none_iff_exists'.mp hsome
    obtain ⟨blank, -, hcontent, -⟩ := mark?_eq_some_iff.mp hsome
    obtain ⟨unfinished, between, hunfinished, hbrace, -⟩ := h.name
    rw [hcontent, List.append_assoc] at hunfinished
    exact hbrace (List.append_cancel_left hunfinished ▸ by simp)
  rw [TextElement.embedded, hnone, Option.bind_none, Option.getD_none]

end TextElement

/-! ## Pieces -/

/-- A **piece of a drawing**: a text element, or characters and complete tags of other elements. -/
inductive Piece where
  /-- A text element. -/
  | text (element : TextElement)
  /-- Characters and other tags. -/
  | plain (run : Text) (isPlain_run : isPlain run = true)

namespace Piece

/-- How a piece is written. -/
def written : Piece → Text
  | .text element => element.written
  | .plain run _ => run

/-- A piece in which the pictures are embedded. -/
def embedded (dark : Bool) : Piece → Text
  | .text element => element.embedded dark
  | .plain run _ => run

@[simp] theorem written_text (element : TextElement) : (text element).written = element.written := rfl

@[simp] theorem written_plain (run : Text) (h : isPlain run = true) : (plain run h).written = run := rfl

@[simp] theorem embedded_text (element : TextElement) (dark : Bool) :
    (text element).embedded dark = element.embedded dark := rfl

@[simp] theorem embedded_plain (run : Text) (h : isPlain run = true) (dark : Bool) :
    (plain run h).embedded dark = run := rfl

/-- Whether a piece overruns what is written behind it. -/
def RunsInto : Piece → Text → Prop
  | .text element, rest => element.RunsInto rest
  | .plain _ _, _ => False

/-- A piece that does not overrun what follows is replaced on its own. -/
theorem embedFrom_append {piece : Piece} {rest : Text} (h : ¬ piece.RunsInto rest) (dark : Bool) :
    embedFrom dark 0 (piece.written ++ rest) = piece.embedded dark ++ embedFrom dark 0 rest := by
  cases piece with
  | text element => exact TextElement.embedFrom_append_of_not_runsInto h
  | plain run hrun => exact embedFrom_append_of_isPlain hrun rest dark

/-- Nothing can be overrun where nothing follows. -/
theorem not_runsInto_nil (piece : Piece) : ¬ piece.RunsInto [] := by
  cases piece with
  | text element =>
    rintro ⟨marked, after, h⟩
    obtain ⟨unfinished, between, -, -, -, -, hrest⟩ := h.name
    simp at hrest
  | plain run hrun => exact id

/-- **Embedding pictures in a piece** replaces its own mark and keeps everything else. -/
theorem embedPictures_written (piece : Piece) (dark : Bool) :
    embedPictures piece.written dark = piece.embedded dark := by
  have h := embedFrom_append piece.not_runsInto_nil dark
  simpa only [List.append_nil, embedFrom, embedPictures] using h

example : embedPictures "<text x=\"1\" y=\"2\">\x7bimg:robot\x7d Bender</text>".toList false =
    "<text x=\"1\" y=\"2\">Bender</text>".toList := by decide +kernel

end Piece

/-- The drawing that is made of the given pieces. -/
def written (pieces : List Piece) : Text := pieces.flatMap Piece.written

@[simp] theorem written_cons (piece : Piece) (pieces : List Piece) :
    written (piece :: pieces) = piece.written ++ written pieces := List.flatMap_cons

/-- Whether the pieces of a drawing are **apart**: none overruns what is written behind it. -/
def AreApart : List Piece → Prop
  | [] => True
  | piece :: pieces => ¬ piece.RunsInto (written pieces) ∧ AreApart pieces

/-- The pictures of a drawing with pieces that are apart are embedded piece by piece. -/
theorem embedFrom_written_of_areApart {pieces : List Piece} (h : AreApart pieces) (dark : Bool) :
    embedFrom dark 0 (written pieces) = pieces.flatMap (Piece.embedded dark) := by
  induction pieces with
  | nil => rfl
  | cons piece pieces ih =>
    rw [written_cons, Piece.embedFrom_append h.1, ih h.2, List.flatMap_cons]

/-! ## Drawings cut behind a text element
Where a text element overruns what follows, the drawing goes on behind the end tag of another text
element. What is left of the drawing is made of pieces again, and it has fewer tags. -/

section Cut

variable {dark : Bool} {front rest after : Text}

/-- A text element has the opening brackets of its two tags. -/
theorem two_le_count_element (tag behind : Text) :
    2 ≤ ("<text".toList ++ tag ++ '>' :: behind ++ "</text>".toList).count '<' := by
  have hstart : "<text".toList.count '<' = 1 := by decide
  have hend : "</text>".toList.count '<' = 1 := by decide
  simp only [List.count_append, hstart, hend]
  omega

theorem two_le_count_replacement? {marked : MarkedText} {text : Text}
    (h : marked.replacement? dark = some text) : 2 ≤ text.count '<' := by
  unfold MarkedText.replacement? at h
  split at h
  · obtain rfl := Option.some.inj h
    exact two_le_count_element _ _
  · simp only [Option.bind_eq_some_iff, Option.map_eq_some_iff] at h
    obtain ⟨⟨writtenX, x⟩, -, ⟨writtenY, y⟩, -, rfl⟩ := h
    rw [List.count_append]
    exact Nat.le_add_left_of_le (two_le_count_element _ _)

theorem TextElement.two_le_count_embedded (element : TextElement) (dark : Bool) :
    2 ≤ (element.embedded dark).count '<' := by
  unfold TextElement.embedded
  cases hreplaced : element.mark?.bind fun marked => marked.replacement? dark with
  | none => simpa [TextElement.written_eq] using two_le_count_element element.tag element.content
  | some text =>
    obtain ⟨marked, -, hreplaced⟩ := Option.bind_eq_some_iff.mp hreplaced
    exact two_le_count_replacement? hreplaced

/-- Every tag of a piece is complete. -/
theorem Piece.mem_of_written_eq {piece : Piece} (h : piece.written = front ++ '<' :: rest) :
    '>' ∈ rest := by
  cases piece with
  | text element =>
    have hlast : ("<text".toList ++ element.tag ++ '>' :: (element.content ++ "</text".toList)) ++
        ['>'] = front ++ '<' :: rest := by simpa [TextElement.written_eq] using h
    cases rest using List.reverseRecOn with
    | nil => exact absurd (List.append_inj_right' hlast rfl) (by decide)
    | append_singleton rest c =>
      have hlast : ("<text".toList ++ element.tag ++ '>' :: (element.content ++ "</text".toList)) ++
          ['>'] = (front ++ '<' :: rest) ++ [c] := by simpa using hlast
      obtain rfl : '>' = c := (List.cons.inj (List.append_inj_right' hlast rfl)).1
      simp
  | plain run hrun =>
    obtain rfl : run = front ++ '<' :: rest := h
    exact ((isPlain_cons.mp (isPlain_of_append hrun)).1 rfl).1

/-- What follows an end tag in a piece is plain, and it has fewer tags than the piece. -/
theorem Piece.isPlain_behind {piece : Piece} (h : piece.written = front ++ "</text>".toList ++ rest)
    (dark : Bool) : isPlain rest = true ∧ rest.count '<' < (piece.embedded dark).count '<' := by
  have hend : "</text>".toList.count '<' = 1 := by decide
  cases piece with
  | text element =>
    have hcut : ("<text".toList ++ element.tag) ++ '>' :: (element.content ++ "</text>".toList) =
        (front ++ "</text".toList) ++ '>' :: rest := by
      simpa [TextElement.written_eq] using h
    obtain ⟨middle, -, hmiddle⟩ :=
      Text.exists_eq_append_of_append_eq (by simp [element.not_mem_tag]) hcut
    -- The rest is an end of what follows the start tag.
    obtain ⟨before, hbefore⟩ : ∃ before, element.content ++ "</text>".toList = before ++ rest := by
      cases middle with
      | nil => exact ⟨[], (List.cons.inj hmiddle).2⟩
      | cons c middle => exact ⟨middle ++ ['>'], by simpa using (List.cons.inj hmiddle).2⟩
    have hcount := congrArg (List.count '<') hbefore
    have hembedded := element.two_le_count_embedded dark
    rw [List.count_append, List.count_append, hend,
      List.count_eq_zero.mpr element.not_mem_content] at hcount
    rw [embedded_text]
    exact ⟨isPlain_of_append (hbefore ▸ element.isPlain_behind_tag), by omega⟩
  | plain run hrun =>
    obtain rfl : run = front ++ "</text>".toList ++ rest := h
    refine ⟨isPlain_of_append hrun, ?_⟩
    rw [embedded_plain, List.count_append, List.count_append, hend]
    omega

/-- What follows an end tag in a drawing is made of pieces, and it has fewer tags than the drawing. -/
theorem exists_written_eq_behind {pieces : List Piece}
    (h : written pieces = front ++ "</text>".toList ++ after) (dark : Bool) :
    ∃ others, written others = after ∧ others.length ≤ pieces.length ∧
      (others.flatMap (Piece.embedded dark)).count '<' <
        (pieces.flatMap (Piece.embedded dark)).count '<' := by
  induction pieces generalizing front with
  | nil => simp [written] at h
  | cons piece pieces ih =>
    have hcut : piece.written ++ written pieces = (front ++ "</text".toList) ++ '>' :: after := by
      simpa using h
    rcases List.append_eq_append_iff.mp hcut with ⟨inside, hinside, hrest⟩ | ⟨rest, hrest, hafter⟩
    · -- The end tag starts in the first piece only if it ends there.
      suffices hbehind : ∃ front', written pieces = front' ++ "</text>".toList ++ after by
        obtain ⟨front', hbehind⟩ := hbehind
        obtain ⟨others, hwritten, hlength, hcount⟩ := ih hbehind
        refine ⟨others, hwritten, Nat.le_succ_of_le hlength, ?_⟩
        rw [List.flatMap_cons, List.count_append]
        omega
      rcases List.append_eq_append_iff.mp hinside with ⟨start, hstart, htag⟩ | ⟨front', -, rfl⟩
      · cases start with
        | nil => exact ⟨[], by rw [hrest, ← List.nil_append inside, ← htag]; simp⟩
        | cons c start =>
          obtain rfl : '<' = c := (List.cons.inj htag).1
          have hmem : '>' ∈ "</text".toList := by
            rw [htag]
            simp [Piece.mem_of_written_eq hstart]
          exact absurd hmem (by decide)
      · exact ⟨front', by rw [hrest]; simp⟩
    · cases rest with
      | nil =>
        have hopen : piece.written = front ++ '<' :: "/text".toList := by simpa using hrest
        exact absurd (Piece.mem_of_written_eq hopen) (by decide)
      | cons c rest =>
        obtain ⟨rfl, rfl⟩ := List.cons.inj hafter
        have hpiece : piece.written = front ++ "</text>".toList ++ rest := by simpa using hrest
        obtain ⟨hplain, hcount⟩ := Piece.isPlain_behind hpiece dark
        refine ⟨.plain rest hplain :: pieces, written_cons _ _, le_rfl, ?_⟩
        rw [List.flatMap_cons, List.flatMap_cons, List.count_append, List.count_append,
          Piece.embedded_plain]
        omega

end Cut

/-! ## Drawings -/

/-- A text element that overruns what follows is replaced by a text that has no more tags than it. -/
theorem TextElement.Overruns.count_le {element : TextElement} {marked : MarkedText} {rest after : Text}
    (h : element.Overruns marked rest after) (dark : Bool) :
    ("<text".toList ++ ' ' :: marked.attributes ++ '>' :: Text.trim marked.label ++
      "</text>".toList).count '<' ≤ (element.embedded dark).count '<' := by
  obtain ⟨blank, htag⟩ := h.tag
  have hlabel : '<' ∉ Text.trim marked.label := fun hmem => h.label (Text.trim_subset _ hmem)
  have hattributes : (' ' :: marked.attributes).count '<' ≤ (blank :: marked.attributes).count '<' := by
    rw [List.count_cons_of_ne (by decide)]
    exact List.count_le_count_cons
  rw [h.embedded, TextElement.written_eq, htag]
  simp only [List.count_append, List.count_cons_of_ne (show '>' ≠ '<' by decide),
    List.count_eq_zero.mpr hlabel]
  omega

/-- If some piece overruns what is written behind it, then tags are lost. -/
theorem count_embedFrom_lt {pieces : List Piece} (h : ¬ AreApart pieces) (dark : Bool) :
    (embedFrom dark 0 (written pieces)).count '<' <
      (pieces.flatMap (Piece.embedded dark)).count '<' := by
  induction hlength : pieces.length using Nat.strong_induction_on generalizing pieces with
  | _ length ih =>
    cases pieces with
    | nil => exact absurd trivial h
    | cons piece pieces =>
      rw [List.length_cons] at hlength
      rw [written_cons, List.flatMap_cons, List.count_append]
      by_cases hinto : piece.RunsInto (written pieces)
      · cases piece with
        | plain run hrun => exact hinto.elim
        | text element =>
          obtain ⟨marked, after, hoverruns⟩ := hinto
          obtain ⟨unfinished, between, -, -, -, -, hrest⟩ := hoverruns.name
          obtain ⟨others, rfl, hothers, hcount⟩ := exists_written_eq_behind hrest dark
          -- What follows is embedded with at most the tags that its pieces have.
          have hafter : (embedFrom dark 0 (written others)).count '<' ≤
              (others.flatMap (Piece.embedded dark)).count '<' := by
            by_cases hapart : AreApart others
            · rw [embedFrom_written_of_areApart hapart]
            · exact (ih others.length (by omega) hapart rfl).le
          have helement := hoverruns.count_le dark
          rw [Piece.written_text, Piece.embedded_text,
            TextElement.embedFrom_append_of_overruns hoverruns, List.count_append]
          omega
      · have hpieces : ¬ AreApart pieces := fun hapart => h ⟨hinto, hapart⟩
        have hlt := ih pieces.length (by omega) hpieces rfl
        rw [Piece.embedFrom_append hinto, List.count_append]
        omega

/-- **Embedding pictures in a drawing.** In each piece on its own, a text element whose content starts
with a complete mark is replaced, and everything else is kept. In a drawing made of pieces, this is what
happens to each of them if and only if no text element overruns what is written behind it. -/
theorem embedPictures_written_iff (pieces : List Piece) (dark : Bool) :
    (∀ piece : Piece, embedPictures piece.written dark = piece.embedded dark) ∧
      (embedPictures (written pieces) dark =
        pieces.flatMap (fun piece => embedPictures piece.written dark) ↔ AreApart pieces) := by
  have hpieces : pieces.flatMap (fun piece => embedPictures piece.written dark) =
      pieces.flatMap (Piece.embedded dark) :=
    congrArg (pieces.flatMap ·) (funext fun piece => piece.embedPictures_written dark)
  refine ⟨fun piece => piece.embedPictures_written dark, ?_⟩
  rw [hpieces]
  constructor
  · intro heq
    by_contra hapart
    have hlt := count_embedFrom_lt hapart dark
    rw [show embedFrom dark 0 (written pieces) = _ from heq] at hlt
    exact lt_irrefl _ hlt
  · intro hapart
    exact embedFrom_written_of_areApart hapart dark

/-- A mark that is closed by the text of another element takes the end of its own for its name. -/
theorem not_embedPictures_written :
    ¬ ∀ (pieces : List Piece) (dark : Bool), embedPictures (written pieces) dark =
      pieces.flatMap (fun piece => embedPictures piece.written dark) := by
  intro h
  have hpieces := h
    [.text ⟨" x=\"1\" y=\"2\"".toList, "\x7bimg:a".toList, by decide, by decide, by decide⟩,
      .text ⟨" x=\"3\" y=\"4\"".toList, "b\x7d c".toList, by decide, by decide, by decide⟩] false
  revert hpieces
  decide +kernel

end UmlSketch.Svg
