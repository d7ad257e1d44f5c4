import UmlSketch.Color.Basic
import UmlSketch.Proofs.Text.Trim

/-! # Colors that are written
A color is written as `#` and six hexadecimal digits, or by its name; a name that is not known is a name
all the same. Neither holds a blank, so nothing is taken off it when it is trimmed. -/

namespace UmlSketch

/-! ## Classes of characters -/

namespace CharClass

variable {first second : CharClass} {c : Char}

theorem contains_iff :
    first.contains c = true ↔ ∃ range ∈ first, range.1 ≤ c.toNat ∧ c.toNat ≤ range.2 := by
  simp [contains]

/-- Two classes whose ranges do not overlap have no character in common. -/
theorem contains_eq_false_of_disjoint
    (h : ∀ range ∈ first, ∀ other ∈ second, range.2 < other.1 ∨ other.2 < range.1)
    (hc : first.contains c = true) : second.contains c = false := by
  obtain ⟨range, hrange, hlow, hhigh⟩ := contains_iff.mp hc
  rw [Bool.eq_false_iff]
  intro hother
  obtain ⟨other, hmem, hlow', hhigh'⟩ := contains_iff.mp hother
  have hdisjoint := h range hrange other hmem
  omega

/-- The letters and digits of ASCII. -/
def asciiWord : CharClass := [(0x30, 0x39), (0x41, 0x5A), (0x61, 0x7A)]

/-- The hexadecimal digits, with letters of either case. -/
def hexDigit : CharClass := [(0x30, 0x39), (0x41, 0x46), (0x61, 0x66)]

theorem contains_asciiWord_of_isAlpha (h : c.isAlpha = true) : asciiWord.contains c = true := by
  have hcase : (65 ≤ c.toNat ∧ c.toNat ≤ 90) ∨ (97 ≤ c.toNat ∧ c.toNat ≤ 122) := by
    rcases (Bool.or_eq_true _ _).mp h with hupper | hlower
    · have hbounds : 'A'.val ≤ c.val ∧ c.val ≤ 'Z'.val := of_decide_eq_true hupper
      exact .inl ⟨UInt32.le_iff_toNat_le.mp hbounds.1, UInt32.le_iff_toNat_le.mp hbounds.2⟩
    · obtain ⟨hlow, hhigh⟩ := Bool.and_eq_true_iff.mp hlower
      exact .inr ⟨UInt32.le_iff_toNat_le.mp (of_decide_eq_true hlow),
        UInt32.le_iff_toNat_le.mp (of_decide_eq_true hhigh)⟩
  simp only [contains_iff, asciiWord, List.mem_cons, List.not_mem_nil, or_false, exists_eq_or_imp,
    exists_eq_left]
  omega

theorem contains_asciiWord_of_hexDigit (h : hexDigit.contains c = true) :
    asciiWord.contains c = true := by
  simp only [contains_iff, asciiWord, hexDigit, List.mem_cons, List.not_mem_nil, or_false,
    exists_eq_or_imp, exists_eq_left] at h ⊢
  omega

/-- No letter or digit of ASCII is a blank. -/
theorem isBlank_eq_false_of_asciiWord (h : asciiWord.contains c = true) : Text.isBlank c = false := by
  have hdisjoint : ∀ range ∈ asciiWord, ∀ other ∈ whiteSpace,
      range.2 < other.1 ∨ other.2 < range.1 := by decide
  exact contains_eq_false_of_disjoint hdisjoint h

/-- No decimal digit is a blank. -/
theorem isBlank_eq_false_of_decimalNumber (h : decimalNumber.contains c = true) :
    Text.isBlank c = false := by
  have hdisjoint : ∀ range ∈ decimalNumber, ∀ other ∈ whiteSpace,
      range.2 < other.1 ∨ other.2 < range.1 := by decide +kernel
  exact contains_eq_false_of_disjoint hdisjoint h

end CharClass

/-! ## Hexadecimal colors -/

namespace Color

variable {c : Char}

theorem toNat_toLower (c : Char) :
    c.toLower.toNat = if 65 ≤ c.toNat ∧ c.toNat ≤ 90 then c.toNat + 32 else c.toNat := by
  have hupper : (c.val ≥ 'A'.val ∧ c.val ≤ 'Z'.val) ↔ 65 ≤ c.toNat ∧ c.toNat ≤ 90 := by
    simp [UInt32.le_iff_toNat_le]
  unfold Char.toLower
  by_cases h : 65 ≤ c.toNat ∧ c.toNat ≤ 90
  · rw [dif_pos (hupper.mpr h), if_pos h]
    have hsum : (c.val + 32).toNat = (c.toNat + 32) % 2 ^ 32 := UInt32.toNat_add c.val 32
    show (c.val + 32).toNat = c.toNat + 32
    omega
  · rw [dif_neg fun h' => h (hupper.mp h'), if_neg h]

/-- A hexadecimal digit in lower case is a digit or a letter up to `f`. -/
theorem isSome_hexValue?_iff : (hexValue? c).isSome = true ↔
    (48 ≤ c.toNat ∧ c.toNat ≤ 57) ∨ (97 ≤ c.toNat ∧ c.toNat ≤ 102) := by
  have hdigit : c.isDigit = true ↔ 48 ≤ c.toNat ∧ c.toNat ≤ 57 := by
    simp [Char.isDigit, UInt32.le_iff_toNat_le]
  have hletter : ('a' ≤ c ∧ c ≤ 'f') ↔ 97 ≤ c.toNat ∧ c.toNat ≤ 102 := by
    simp [Char.le_def, UInt32.le_iff_toNat_le]
  rw [← hdigit, ← hletter, hexValue?]
  split
  · simp_all
  · split <;> simp_all

/-- The characters whose lower case is a hexadecimal digit are the hexadecimal digits. -/
theorem isSome_hexValue?_toLower_iff :
    (hexValue? c.toLower).isSome = true ↔ CharClass.hexDigit.contains c = true := by
  simp only [isSome_hexValue?_iff, toNat_toLower, CharClass.contains_iff, CharClass.hexDigit,
    List.mem_cons, List.not_mem_nil, or_false, exists_eq_or_imp, exists_eq_left]
  split <;> omega

/-- Six hexadecimal digits have six values. -/
theorem exists_mapM_hexValue? {digits : Text} (hlength : digits.length = 6)
    (h : ∀ c ∈ digits, (hexValue? c).isSome = true) :
    ∃ r r' g g' b b', digits.mapM hexValue? = some [r, r', g, g', b, b'] := by
  match digits, hlength with
  | [a, b, c, d, e, f], _ =>
    simp only [List.forall_mem_cons, Option.isSome_iff_exists] at h
    obtain ⟨⟨r, ha⟩, ⟨r', hb⟩, ⟨g, hc⟩, ⟨g', hd⟩, ⟨b', he⟩, ⟨b'', hf⟩, -⟩ := h
    exact ⟨r, r', g, g', b', b'', by simp [ha, hb, hc, hd, he, hf]⟩

/-- Whether a character is a hexadecimal digit with letters in upper case. -/
def isUpperHexDigit (c : Char) : Bool := c.isDigit || ('A' ≤ c && c ≤ 'F')

theorem isUpperHexDigit_hexDigit {value : Nat} (h : value < 16) :
    isUpperHexDigit (hexDigit value) = true := by
  have hall : ∀ digit : Fin 16, isUpperHexDigit (hexDigit digit) = true := by decide
  exact hall ⟨value, h⟩

/-- Whether a text is the **code of a color**: `#` and six hexadecimal digits in upper case. -/
def IsCode (text : Text) : Prop :=
  ∃ digits, text = '#' :: digits ∧ digits.length = 6 ∧ ∀ c ∈ digits, isUpperHexDigit c = true

/-- Whether a text is the **name of a color**, known or not: letters of ASCII, followed by decimal
digits. -/
def IsName (text : Text) : Prop :=
  ∃ letters digits, text = letters ++ digits ∧ letters ≠ [] ∧ (∀ c ∈ letters, c.isAlpha = true) ∧
    ∀ c ∈ digits, CharClass.decimalNumber.contains c = true

/-- Whether a text is the **specification of a color** in a bracket: a name, or `#` and six hexadecimal
digits of either case. -/
def IsSpec (text : Text) : Prop :=
  IsName text ∨ ∃ digits, text = '#' :: digits ∧ digits.length = 6 ∧
    ∀ c ∈ digits, CharClass.hexDigit.contains c = true

namespace IsSpec

variable {spec : Text}

theorem ne_nil (h : IsSpec spec) : spec ≠ [] := by
  rcases h with ⟨letters, digits, rfl, hne, -, -⟩ | ⟨digits, rfl, -, -⟩
  · exact List.append_ne_nil_of_left_ne_nil hne digits
  · exact List.cons_ne_nil _ _

/-- The specification of a color is made of letters, digits and `#`. -/
theorem contains_of_mem (h : IsSpec spec) {c : Char} (hc : c ∈ spec) :
    CharClass.asciiWord.contains c = true ∨ CharClass.decimalNumber.contains c = true ∨ c = '#' := by
  rcases h with ⟨letters, digits, rfl, -, hletters, hdigits⟩ | ⟨digits, rfl, -, hdigits⟩
  · rcases List.mem_append.mp hc with hc | hc
    · exact .inl (CharClass.contains_asciiWord_of_isAlpha (hletters c hc))
    · exact .inr (.inl (hdigits c hc))
  · rcases List.mem_cons.mp hc with rfl | hc
    · exact .inr (.inr rfl)
    · exact .inl (CharClass.contains_asciiWord_of_hexDigit (hdigits c hc))

/-- There are no blanks in the specification of a color. -/
theorem isBlank_eq_false (h : IsSpec spec) : ∀ c ∈ spec, Text.isBlank c = false := by
  intro c hc
  rcases h.contains_of_mem hc with hword | hdigit | rfl
  · exact CharClass.isBlank_eq_false_of_asciiWord hword
  · exact CharClass.isBlank_eq_false_of_decimalNumber hdigit
  · decide

/-- There is no colon in the specification of a color. -/
theorem colon_not_mem (h : IsSpec spec) : ':' ∉ spec := by
  intro hc
  have hword : CharClass.asciiWord.contains ':' = false := by decide
  have hdigit : CharClass.decimalNumber.contains ':' = false := by decide +kernel
  rcases h.contains_of_mem hc with h | h | h
  · simp [hword] at h
  · simp [hdigit] at h
  · simp at h

end IsSpec

/-- A known color is written as its code. -/
theorem isCode_toHex (color : Color) : IsCode color.toHex := by
  refine ⟨_, rfl, rfl, ?_⟩
  have hbyte (channel : UInt8) : ∀ c ∈ hexByte channel, isUpperHexDigit c = true := by
    have hchannel := channel.toNat_lt
    simp only [hexByte, List.forall_mem_cons]
    exact ⟨isUpperHexDigit_hexDigit (by omega), isUpperHexDigit_hexDigit (by omega), by simp⟩
  simp only [List.forall_mem_append]
  exact ⟨⟨hbyte color.red, hbyte color.green⟩, hbyte color.blue⟩

end Color

end UmlSketch
