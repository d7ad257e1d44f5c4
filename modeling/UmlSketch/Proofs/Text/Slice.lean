import UmlSketch.Span
import UmlSketch.Text.CharClass

/-! # Slices of a document
A span counts bytes, a text is a list of characters. `Text.slice?` cuts the bytes of a span out of a
text and gives nothing if the span leaves the text or ends within a character; `Text.StandsAt` says
where a part stands in a text that is itself a part of something longer, so that places found in a
line or in a token add up to places of the document. -/

namespace UmlSketch

namespace Text

/-! ## Cutting at a byte -/

/-- Cuts a text after `count` bytes; there is no such cut within a character or past the end. -/
def splitBytes? : Nat → Text → Option (Text × Text)
  | 0, text => some ([], text)
  | _ + 1, [] => none
  | count + 1, c :: rest =>
    if c.utf8Size ≤ count + 1 then
      (splitBytes? (count + 1 - c.utf8Size) rest).map fun (before, after) => (c :: before, after)
    else none

/-- The bytes of a span, if it lies inside the text and on the boundaries of characters. -/
def slice? (text : Text) (span : Span) : Option Text :=
  (splitBytes? span.start text).bind fun (_, after) =>
    (splitBytes? span.length after).map Prod.fst

/-- A text without bytes is empty, since every character takes at least one. -/
@[simp] theorem byteLength_eq_zero {text : Text} : byteLength text = 0 ↔ text = [] := by
  cases text with
  | nil => simp
  | cons c rest =>
    have hc := c.utf8Size_pos
    simp only [byteLength_cons, reduceCtorEq, iff_false]
    omega

/-- A cut exists at the end of every part, and only there. -/
theorem splitBytes?_eq_some_iff {count : Nat} {text before after : Text} :
    splitBytes? count text = some (before, after) ↔
      text = before ++ after ∧ byteLength before = count := by
  -- The part before the cut loses its first character along with the text.
  fun_induction splitBytes? count text generalizing before with
  | case1 text =>
    rw [byteLength_eq_zero]
    constructor
    · rintro h
      obtain ⟨rfl, rfl⟩ := Prod.mk.inj (Option.some.inj h)
      exact ⟨rfl, rfl⟩
    · rintro ⟨rfl, rfl⟩
      rfl
  | case2 count =>
    constructor
    · simp
    · rintro ⟨h, hlength⟩
      obtain ⟨rfl, rfl⟩ := List.append_eq_nil_iff.mp h.symm
      simp at hlength
  | case3 count c rest hfits ih =>
    simp only [Option.map_eq_some_iff, Prod.exists, Prod.mk.injEq]
    constructor
    · rintro ⟨front, back, hsplit, rfl, rfl⟩
      obtain ⟨rfl, hlength⟩ := ih.mp hsplit
      exact ⟨rfl, by rw [byteLength_cons, hlength]; omega⟩
    · rintro ⟨h, hlength⟩
      cases before with
      | nil => simp at hlength
      | cons d front =>
        obtain ⟨rfl, rfl⟩ := List.cons.inj h
        rw [byteLength_cons] at hlength
        exact ⟨front, after, ih.mpr ⟨rfl, by omega⟩, rfl, rfl⟩
  | case4 count c rest hfits =>
    -- A part cannot end within the first character.
    constructor
    · simp
    · rintro ⟨h, hlength⟩
      cases before with
      | nil => simp at hlength
      | cons d front =>
        obtain ⟨rfl, rfl⟩ := List.cons.inj h
        rw [byteLength_cons] at hlength
        omega

/-- A slice is a part of the text, and the bytes before it and in it are those of the span. -/
theorem slice?_eq_some_iff {text part : Text} {span : Span} :
    slice? text span = some part ↔
      ∃ before after, text = before ++ (part ++ after) ∧ byteLength before = span.start ∧
        byteLength part = span.length := by
  simp only [slice?, Option.bind_eq_some_iff, Option.map_eq_some_iff, Prod.exists,
    splitBytes?_eq_some_iff]
  constructor
  · rintro ⟨before, _, ⟨rfl, hstart⟩, _, after, ⟨rfl, hlength⟩, rfl⟩
    exact ⟨before, after, rfl, hstart, hlength⟩
  · rintro ⟨before, after, rfl, hstart, hlength⟩
    exact ⟨before, part ++ after, ⟨rfl, hstart⟩, part, after, ⟨rfl, hlength⟩, rfl⟩

/-! ## Places of parts -/

/-- Whether a part stands at a position of a text whose first byte has the position `start`. -/
def StandsAt (start : Nat) (text : Text) (position : Nat) (part : Text) : Prop :=
  ∃ before after, text = before ++ (part ++ after) ∧ position = start + byteLength before

namespace StandsAt

/-- A part of a part is a part. -/
theorem trans {start position inner : Nat} {text part piece : Text}
    (h : StandsAt start text position part) (hpart : StandsAt position part inner piece) :
    StandsAt start text inner piece := by
  obtain ⟨before, after, rfl, rfl⟩ := h
  obtain ⟨front, back, rfl, rfl⟩ := hpart
  exact ⟨before ++ front, back ++ after, by simp, by simp; omega⟩

/-- The first part of a text stands at its start. -/
theorem left (start : Nat) (part after : Text) : StandsAt start (part ++ after) start part :=
  ⟨[], after, rfl, by simp⟩

/-- What follows a first part stands behind its bytes. -/
theorem right (start : Nat) (before part : Text) :
    StandsAt start (before ++ part) (start + byteLength before) part :=
  ⟨before, [], by simp, rfl⟩

/-- The characters of a part are characters of the text. -/
theorem subset {start position : Nat} {text part : Text} (h : StandsAt start text position part) :
    part ⊆ text := by
  obtain ⟨before, after, rfl, -⟩ := h
  intro c hc
  simp [hc]

/-- A part that stands in a document is the slice of its span. -/
theorem slice?_eq {text part : Text} {span : Span} (h : StandsAt 0 text span.start part)
    (hlength : span.length = byteLength part) : slice? text span = some part := by
  obtain ⟨before, after, htext, hstart⟩ := h
  exact slice?_eq_some_iff.mpr ⟨before, after, htext, by omega, hlength.symm⟩

end StandsAt

/-! ## Blanks at the ends -/

/-- What is left when the blanks at the end are taken off starts where the text does. -/
theorem standsAt_trimEnd (start : Nat) (text : Text) : StandsAt start text start (trimEnd text) := by
  have h : text = trimEnd text ++ (text.reverse.takeWhile isBlank).reverse := by
    rw [trimEnd, ← List.reverse_append, List.takeWhile_append_dropWhile, List.reverse_reverse]
  have hleft := StandsAt.left start (trimEnd text) (text.reverse.takeWhile isBlank).reverse
  rwa [← h] at hleft

/-- A trimmed text stands behind the blanks at the start. -/
theorem standsAt_trim (start : Nat) (text : Text) :
    StandsAt start text (start + byteLength (text.takeWhile isBlank)) (trim text) := by
  have h := StandsAt.right start (text.takeWhile isBlank) (trimStart text)
  rw [trimStart, List.takeWhile_append_dropWhile] at h
  exact h.trans (standsAt_trimEnd _ _)

end Text

end UmlSketch
