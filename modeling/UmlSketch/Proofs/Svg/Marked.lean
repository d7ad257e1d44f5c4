import UmlSketch.Svg.Picture
import UmlSketch.Proofs.Text.Marks

/-! # Marked text elements
What a marked text element looks like where it is found (`MarkedText.ofStart?_eq_some_iff`), and how
replacing goes on before and behind it. The name of a mark goes up to the next closing brace, wherever
it stands: a mark that its own element leaves unfinished is closed by a brace in what follows the
element (`MarkedText.opens_iff_of_content`). -/

namespace UmlSketch

/-! ## The first occurrence of a character -/

namespace Text

variable {c : Char} {front back front' back' : Text}

/-- A text is read up to the first occurrence of a character. -/
theorem span_ne_append_cons (h : c ∉ front) (back : Text) :
    (front ++ c :: back).takeWhile (· ≠ c) = front ∧
      (front ++ c :: back).dropWhile (· ≠ c) = c :: back := by
  refine span_append (fun d hd => decide_eq_true fun hdc => h (hdc ▸ hd)) ?_
  intro d hd
  obtain rfl := Option.some.inj hd
  simp

/-- A text is cut at the first occurrence of a character in one way only. -/
theorem append_cons_inj (h : c ∉ front) (h' : c ∉ front')
    (heq : front ++ c :: back = front' ++ c :: back') : front = front' ∧ back = back' := by
  obtain ⟨hfront, hback⟩ := span_ne_append_cons h back
  rw [heq, (span_ne_append_cons h' back').1] at hfront
  rw [heq, (span_ne_append_cons h' back').2] at hback
  exact ⟨hfront.symm, (List.cons.inj hback).2.symm⟩

/-- If a text without a character is at the start of another, then so it is of what comes before the
first occurrence of the character. -/
theorem exists_eq_append_of_append_eq (h : c ∉ front) (heq : front ++ back = front' ++ c :: back') :
    ∃ middle, front' = front ++ middle ∧ back = middle ++ c :: back' := by
  rcases List.append_eq_append_iff.mp heq with hmiddle | ⟨rest, hrest, hback⟩
  · exact hmiddle
  · cases rest with
    | nil => exact ⟨[], by simpa using hrest.symm, by simpa using hback.symm⟩
    | cons d rest =>
      obtain ⟨rfl, -⟩ := List.cons.inj hback
      exact absurd (hrest ▸ List.mem_append_right front' List.mem_cons_self) h

/-- A pattern that starts with a character is taken off behind the characters before it. -/
theorem takeWhile_dropStart?_iff {pattern text : Text} :
    (text.takeWhile (· ≠ c) = front ∧
        dropStart? (c :: pattern) (text.dropWhile (· ≠ c)) = some back) ↔
      c ∉ front ∧ text = front ++ c :: pattern ++ back := by
  constructor
  · rintro ⟨rfl, hback⟩
    rw [dropStart?_eq_some_iff] at hback
    refine ⟨fun hmem => ?_, ?_⟩
    · simpa using List.mem_takeWhile_imp hmem
    · conv_lhs => rw [← List.takeWhile_append_dropWhile (p := (· ≠ c)) (l := text), hback]
      rw [List.append_assoc]
  · rintro ⟨hfront, rfl⟩
    obtain ⟨htake, hdrop⟩ := span_ne_append_cons hfront (pattern ++ back)
    rw [List.append_assoc, List.cons_append, htake, hdrop, dropStart?_eq_some_iff]
    exact ⟨rfl, rfl⟩

end Text

namespace Svg

/-! ## Finding a marked text -/

namespace MarkedText

variable {marked : MarkedText} {text content tail back after : Text}

/-- Whether the text behind a start tag is that of a marked text: the mark, the label, the end of the
element, and what comes after it. -/
structure Opens (marked : MarkedText) (tail after : Text) : Prop where
  eq : tail = "\x7bimg:".toList ++ marked.name ++ '\x7d' :: marked.label ++ "</text>".toList ++ after
  name : '\x7d' ∉ marked.name
  label : '<' ∉ marked.label

theorem ne_of_isBlank {blank : Char} (h : Text.isBlank blank = true) : '>' ≠ blank := by
  rintro rfl
  exact absurd h (by decide)

/-- A marked text is a start tag with attributes, and behind it a mark, a label and an end tag. -/
theorem ofStart?_eq_some_iff :
    ofStart? text = some (marked, after) ↔
      ∃ blank tail, Text.isBlank blank = true ∧ '>' ∉ marked.attributes ∧
        text = "<text".toList ++ blank :: marked.attributes ++ '>' :: tail ∧
        marked.Opens tail after := by
  obtain ⟨attributes, name, label⟩ := marked
  have htag : ">\x7bimg:".toList = '>' :: "\x7bimg:".toList := rfl
  have hend : "</text>".toList = '<' :: "/text>".toList := rfl
  unfold ofStart?
  constructor
  · intro h
    split at h
    · cases h
    · cases h
    · rename_i blank inTag hstart
      split at h
      · cases h
      · rename_i hblank
        simp only [Option.bind_eq_some_iff, Option.map_eq_some_iff, Prod.mk.injEq,
          MarkedText.mk.injEq] at h
        obtain ⟨inMark, hmark, inText, hbrace, _, hclose, ⟨hinTag, hinMark, hinText⟩, rfl⟩ := h
        rw [htag] at hmark
        rw [hend] at hclose
        obtain ⟨hattributes, rfl⟩ := Text.takeWhile_dropStart?_iff.mp ⟨hinTag, hmark⟩
        obtain ⟨hname, rfl⟩ := Text.takeWhile_dropStart?_iff.mp ⟨hinMark, hbrace⟩
        obtain ⟨hlabel, rfl⟩ := Text.takeWhile_dropStart?_iff.mp ⟨hinText, hclose⟩
        refine ⟨blank, "\x7bimg:".toList ++ name ++ '\x7d' :: label ++ "</text>".toList ++ _,
          by simpa using hblank, hattributes, ?_, rfl, hname, hlabel⟩
        rw [Text.dropStart?_eq_some hstart]
        simp
  · rintro ⟨blank, tail, hblank, hattributes, rfl, htail, hname, hlabel⟩
    have hstart : Text.dropStart? "<text".toList
        ("<text".toList ++ blank :: attributes ++ '>' :: tail) =
          some (blank :: (attributes ++ '>' :: tail)) := by
      rw [Text.dropStart?_eq_some_iff, List.append_assoc, List.cons_append]
    simp only [hstart, hblank, Bool.not_true, Bool.false_eq_true, if_false]
    subst htail
    have hinTag := Text.takeWhile_dropStart?_iff.mpr (⟨hattributes, rfl⟩ : _ ∧
      _ = attributes ++ '>' :: "\x7bimg:".toList ++
        (name ++ '\x7d' :: label ++ "</text>".toList ++ after))
    have hinMark := Text.takeWhile_dropStart?_iff.mpr (⟨hname, rfl⟩ : _ ∧
      _ = name ++ '\x7d' :: [] ++ (label ++ "</text>".toList ++ after))
    have hinText := Text.takeWhile_dropStart?_iff.mpr (⟨hlabel, rfl⟩ : _ ∧
      _ = label ++ '<' :: "/text>".toList ++ after)
    simp only [List.append_assoc, List.cons_append, List.nil_append, htag, hend] at *
    simp only [hinTag, hinMark, hinText, Option.bind_some, Option.map_some]

/-- A start tag is the start of a marked text exactly if what follows it opens with a mark. -/
theorem ofStart?_tag_eq_some_iff {blank : Char} {attributes : Text} (hblank : Text.isBlank blank = true)
    (hattributes : '>' ∉ attributes) :
    ofStart? ("<text".toList ++ blank :: attributes ++ '>' :: tail) = some (marked, after) ↔
      marked.attributes = attributes ∧ marked.Opens tail after := by
  rw [ofStart?_eq_some_iff]
  constructor
  · rintro ⟨blank', tail', hblank', hattributes', heq, htail⟩
    obtain ⟨htags, rfl⟩ := Text.append_cons_inj (by simp [hattributes, ne_of_isBlank hblank])
      (by simp [hattributes', ne_of_isBlank hblank']) heq
    have htags : attributes = marked.attributes := (List.cons.inj (List.append_cancel_left htags)).2
    exact ⟨htags.symm, htail⟩
  · rintro ⟨rfl, htail⟩
    exact ⟨blank, tail, hblank, hattributes, rfl, htail⟩

/-- A mark is complete in the content of its element, or it is closed behind the element. -/
theorem opens_iff_of_content (hcontent : '<' ∉ content) :
    marked.Opens (content ++ "</text>".toList ++ back) after ↔
      (content = "\x7bimg:".toList ++ marked.name ++ '\x7d' :: marked.label ∧
        '\x7d' ∉ marked.name ∧ after = back) ∨
      ∃ unfinished between, content = "\x7bimg:".toList ++ unfinished ∧ '\x7d' ∉ unfinished ∧
        marked.name = unfinished ++ "</text>".toList ++ between ∧ '\x7d' ∉ between ∧
        '<' ∉ marked.label ∧
        back = between ++ '\x7d' :: marked.label ++ "</text>".toList ++ after := by
  constructor
  · rintro ⟨heq, hname, hlabel⟩
    by_cases hinside : '<' ∈ marked.name
    · -- The first opening bracket of the name is that of the end tag of the element.
      right
      obtain ⟨unfinished, inName, hsplit, hunfinished⟩ := List.eq_append_cons_of_mem hinside
      rw [hsplit] at heq
      have hcut : content ++ '<' :: ("/text>".toList ++ back) =
          ("\x7bimg:".toList ++ unfinished) ++ '<' :: (inName ++ '\x7d' :: (marked.label ++ "</text>".toList ++ after)) := by simpa using heq
      obtain ⟨hcontent, hback⟩ := Text.append_cons_inj hcontent (by simp [hunfinished]) hcut
      obtain ⟨between, rfl, hback⟩ := Text.exists_eq_append_of_append_eq (by decide) hback
      rw [hsplit] at hname
      simp only [List.mem_append, List.mem_cons, not_or] at hname
      refine ⟨unfinished, between, hcontent, hname.1, ?_, hname.2.2.2, hlabel, ?_⟩
      · simpa using hsplit
      · simpa using hback
    · left
      have hcut : content ++ '<' :: ("/text>".toList ++ back) =
          ("\x7bimg:".toList ++ marked.name ++ '\x7d' :: marked.label) ++ '<' ::
            ("/text>".toList ++ after) := by simpa using heq
      obtain ⟨hcontent, hback⟩ := Text.append_cons_inj hcontent (by simp [hinside, hlabel]) hcut
      exact ⟨hcontent, hname, (List.append_cancel_left hback).symm⟩
  · rintro (⟨rfl, hname, rfl⟩ | ⟨unfinished, between, rfl, hunfinished, hname, hbetween, hlabel, rfl⟩)
    · have hlabel : '<' ∉ marked.label := fun h => hcontent (by simp [h])
      exact ⟨by simp, hname, hlabel⟩
    · have hend : '\x7d' ∉ "</text>".toList := by decide
      exact ⟨by simp [hname], by simp [hname, hunfinished, hbetween], hlabel⟩

end MarkedText

/-! ## Replacing in a text -/

section Replacing

variable {dark : Bool} {marked : MarkedText} {matched after : Text}

/-- Characters that belong to a replaced element are passed over. -/
theorem embedFrom_skip (dark : Bool) (skip : Nat) (text : Text) :
    embedFrom dark skip text = embedFrom dark 0 (text.drop skip) := by
  induction text generalizing skip with
  | nil => simp [embedFrom]
  | cons c rest ih =>
    cases skip with
    | zero => rfl
    | succ skip => rw [embedFrom, ih, List.drop_succ_cons]

/-- A character at which no marked text starts is kept. -/
theorem embedFrom_cons_of_none {c : Char} {rest : Text} (h : MarkedText.ofStart? (c :: rest) = none) :
    embedFrom dark 0 (c :: rest) = c :: embedFrom dark 0 rest := by
  rw [embedFrom, h]

/-- A marked text is replaced, and replacing goes on behind it. -/
theorem embedFrom_append_of_some (hmatched : matched ≠ [])
    (h : MarkedText.ofStart? (matched ++ after) = some (marked, after)) :
    embedFrom dark 0 (matched ++ after) =
      (marked.replacement? dark).getD matched ++ embedFrom dark 0 after := by
  obtain ⟨c, rest, rfl⟩ := List.exists_cons_of_ne_nil hmatched
  rw [List.cons_append] at h ⊢
  have hlength : (c :: (rest ++ after)).length - after.length = rest.length + 1 := by
    simp only [List.length_cons, List.length_append]
    omega
  have htake : (c :: (rest ++ after)).take (rest.length + 1) = c :: rest := by simp
  rw [embedFrom, h]
  simp only [hlength, htake, Nat.add_sub_cancel]
  rw [embedFrom_skip, List.drop_left]

end Replacing
end Svg
end UmlSketch
