import Mathlib.Data.List.TakeWhile
import UmlSketch.Proofs.Document.Places

/-! # Places of directives
A directive is read with a cursor that counts the bytes it passes. What the cursor has read is a part
of the line, and the position it has come to is that of what is left; so a directive that is read is
written out in the line, and its key and value stand where their spans say. -/

namespace UmlSketch

/-! ## Cursors -/

namespace Cursor

/-- Whether reading a part of a text leads from one cursor to another. -/
structure Reads (start : Cursor) (part : Text) (after : Cursor) : Prop where
  /-- The part comes first and the rest is left. -/
  text_eq : start.text = part ++ after.text
  /-- The position moves by the bytes of the part. -/
  offset_eq : after.offset = start.offset + Text.byteLength part

/-- Two readings one after the other read the two parts. -/
theorem Reads.trans {start middle after : Cursor} {first second : Text}
    (h : start.Reads first middle) (hnext : middle.Reads second after) :
    start.Reads (first ++ second) after where
  text_eq := by rw [h.text_eq, hnext.text_eq, List.append_assoc]
  offset_eq := by rw [hnext.offset_eq, h.offset_eq, Text.byteLength_append, Nat.add_assoc]

/-- A cursor that passes over a character has read it. -/
theorem reads_of_skipChar? {c : Char} {start after : Cursor} (h : start.skipChar? c = some after) :
    start.Reads [c] after := by
  unfold skipChar? at h
  split at h
  · simp at h
  · rename_i first rest htext
    split at h
    · rename_i hfirst
      cases h
      exact ⟨by rw [htext, hfirst, List.singleton_append], by simp⟩
    · simp at h

/-- A cursor has read the characters that it takes. -/
theorem reads_takeWhile (isIn : Char → Bool) (start : Cursor) :
    start.Reads (start.takeWhile isIn).1 (start.takeWhile isIn).2 where
  text_eq := List.takeWhile_append_dropWhile.symm
  offset_eq := rfl

/-- A cursor that passes over blanks has read blanks. -/
theorem reads_skipBlanks (start : Cursor) :
    ∃ blanks, (∀ c ∈ blanks, Text.isBlank c = true) ∧ start.Reads blanks start.skipBlanks :=
  ⟨_, fun _ hc => List.mem_takeWhile_imp hc, reads_takeWhile Text.isBlank start⟩

end Cursor

/-- Whether a text is a word: it is not empty and has only characters of words. -/
def Text.IsWord (text : Text) : Prop := text ≠ [] ∧ ∀ c ∈ text, Text.isWordChar c = true

/-- A cursor that reads a word has passed over it, and the word starts where the cursor stood. -/
theorem Cursor.reads_of_word? {start after : Cursor} {word : Token}
    (h : start.word? = some (word, after)) :
    start.Reads word.text after ∧ word.text.IsWord ∧
      word.span = .ofLength start.offset (Text.byteLength word.text) := by
  have hreads := reads_takeWhile Text.isWordChar start
  simp only [word?] at h
  split at h
  · simp at h
  · rename_i hread
    obtain ⟨rfl, rfl⟩ := Prod.mk.inj (Option.some.inj h)
    exact ⟨hreads, ⟨hread, fun c hc => List.mem_takeWhile_imp hc⟩, rfl⟩

/-! ## Directives in a line -/

namespace Directive

/-- The **blanks** that a directive is written with. -/
structure Blanks where
  /-- Those behind the slashes. -/
  indent : Text
  /-- Those before the key. -/
  beforeKey : Text
  /-- Those behind the key. -/
  afterKey : Text
  /-- Those before the value. -/
  beforeValue : Text
  /-- Those behind the value. -/
  afterValue : Text

namespace Blanks

/-- All the blanks of a directive. -/
def all (blanks : Blanks) : Text :=
  blanks.indent ++ blanks.beforeKey ++ blanks.afterKey ++ blanks.beforeValue ++ blanks.afterValue

/-- What stands before the key. -/
def toKey (blanks : Blanks) : Text :=
  ['/', '/'] ++ blanks.indent ++ ['\x7b'] ++ blanks.beforeKey

/-- What stands before the value, if the key is known. -/
def toValue (blanks : Blanks) (key : Text) : Text :=
  blanks.toKey ++ key ++ blanks.afterKey ++ [':'] ++ blanks.beforeValue

end Blanks

/-- Whether a directive is written in a line with the given blanks: two slashes and blanks, then the
key and the value in braces. The spans of the two are their places. -/
structure WrittenWith (blanks : Blanks) (directive : Directive) (line : SourceLine) : Prop where
  /-- The blanks are blank. -/
  isBlank_all : ∀ c ∈ blanks.all, Text.isBlank c = true
  /-- There is a blank behind the slashes. -/
  indent_ne_nil : blanks.indent ≠ []
  /-- The key is a word. -/
  isWord_key : directive.key.text.IsWord
  /-- The value is a word. -/
  isWord_value : directive.value.text.IsWord
  /-- The line holds nothing else. -/
  text_eq : line.text =
    blanks.toValue directive.key.text ++ directive.value.text ++ blanks.afterValue ++ ['\x7d']
  /-- The span of the key is its place. -/
  span_key : directive.key.span =
    .ofLength (line.offset + Text.byteLength blanks.toKey) (Text.byteLength directive.key.text)
  /-- The span of the value is its place. -/
  span_value : directive.value.span =
    .ofLength (line.offset + Text.byteLength (blanks.toValue directive.key.text))
      (Text.byteLength directive.value.text)

/-- Whether a **directive is written** in a line, with whatever blanks. -/
def WrittenIn (directive : Directive) (line : SourceLine) : Prop :=
  ∃ blanks, directive.WrittenWith blanks line

/-- A directive that is read off a line is written in it. -/
theorem writtenIn_of_ofLine? {line : SourceLine} {directive : Directive}
    (h : ofLine? line = some directive) : directive.WrittenIn line := by
  simp only [ofLine?, Option.bind_eq_bind, Option.bind_eq_some_iff] at h
  obtain ⟨afterSlash, hslash, afterSlashes, hslashes, h⟩ := h
  split at h
  · simp at h
  rename_i hindent
  simp only [Option.bind_eq_some_iff, Prod.exists, Option.ite_none_right_eq_some,
    Option.some.injEq] at h
  obtain ⟨afterBrace, hbrace, key, afterKey, hkey, afterColon, hcolon, value, afterValue, hvalue,
    ended, hended, hend, rfl⟩ := h
  -- The blanks at the five places, and the two words.
  obtain ⟨indent, hindentBlank, hreadsIndent⟩ := Cursor.reads_skipBlanks afterSlashes
  obtain ⟨first, hfirst, hreadsFirst⟩ := Cursor.reads_skipBlanks afterBrace
  obtain ⟨second, hsecond, hreadsSecond⟩ := Cursor.reads_skipBlanks afterKey
  obtain ⟨third, hthird, hreadsThird⟩ := Cursor.reads_skipBlanks afterColon
  obtain ⟨fourth, hfourth, hreadsFourth⟩ := Cursor.reads_skipBlanks afterValue
  obtain ⟨hreadsKey, hkeyWord, hkeySpan⟩ := Cursor.reads_of_word? hkey
  obtain ⟨hreadsValue, hvalueWord, hvalueSpan⟩ := Cursor.reads_of_word? hvalue
  -- What is read up to the key, up to the value and up to the end of the line.
  have htoKey := ((((Cursor.reads_of_skipChar? hslash).trans
    (Cursor.reads_of_skipChar? hslashes)).trans hreadsIndent).trans
    (Cursor.reads_of_skipChar? hbrace)).trans hreadsFirst
  have htoValue := (((htoKey.trans hreadsKey).trans hreadsSecond).trans
    (Cursor.reads_of_skipChar? hcolon)).trans hreadsThird
  have htoEnd := ((htoValue.trans hreadsValue).trans hreadsFourth).trans
    (Cursor.reads_of_skipChar? hended)
  refine ⟨⟨indent, first, second, third, fourth⟩, ?_, ?_, hkeyWord, hvalueWord, ?_, ?_, ?_⟩
  · simp only [Blanks.all, List.forall_mem_append]
    exact ⟨⟨⟨⟨hindentBlank, hfirst⟩, hsecond⟩, hthird⟩, hfourth⟩
  · rintro rfl
    exact hindent hreadsIndent.offset_eq
  · have htext := htoEnd.text_eq
    rwa [hend, List.append_nil] at htext
  · rw [hkeySpan, htoKey.offset_eq]
    rfl
  · rw [hvalueSpan, htoValue.offset_eq]
    rfl

/-- The key of a directive that is written in a line stands in the line. -/
theorem WrittenIn.standsIn_key {directive : Directive} {line : SourceLine}
    (h : directive.WrittenIn line) : directive.key.StandsIn line.offset line.text := by
  obtain ⟨blanks, h⟩ := h
  refine ⟨⟨blanks.toKey, ?_, ?_, ?_⟩, ?_, h.isWord_key.1⟩
  · exact blanks.afterKey ++ [':'] ++ blanks.beforeValue ++ directive.value.text ++
      blanks.afterValue ++ ['\x7d']
  · simp only [h.text_eq, Blanks.toValue, List.append_assoc]
  · rw [h.span_key]
    rfl
  · rw [h.span_key, Span.length_ofLength]

/-- The value of a directive that is written in a line stands in the line. -/
theorem WrittenIn.standsIn_value {directive : Directive} {line : SourceLine}
    (h : directive.WrittenIn line) : directive.value.StandsIn line.offset line.text := by
  obtain ⟨blanks, h⟩ := h
  refine ⟨⟨blanks.toValue directive.key.text, blanks.afterValue ++ ['\x7d'], ?_, ?_⟩, ?_,
    h.isWord_value.1⟩
  · simp only [h.text_eq, List.append_assoc]
  · rw [h.span_value]
    rfl
  · rw [h.span_value, Span.length_ofLength]

end Directive

end UmlSketch
