import UmlSketch.Color.Fill
import UmlSketch.Proofs.Color

/-! # Fills that are resolved again
What a color specification is resolved to is a specification itself: the code of the color, or the
trimmed text of a name that is not known. Resolving it again changes nothing (`Fill.isSettled_ofSpec`).
This hangs on one property of the library that knows the notations of CSS: it reads six hexadecimal
digits as the three channels. So the library is left open here (`Fill.ofSpecBy`), and what else it knows
does not matter. -/

namespace UmlSketch

namespace Color

/-! ## Libraries of notations -/

/-- A **library** of color notations: the color of a notation in lower case, if the library knows it. -/
abbrev Library := Text → Option Color

/-- Whether a library reads **hexadecimal colors**: `#` and six digits stand for three channels of two
digits each. -/
def Library.ReadsHex (library : Library) : Prop :=
  ∀ digits r r' g g' b b', digits.mapM hexValue? = some [r, r', g, g', b, b'] →
    library ('#' :: digits) =
      some ⟨(16 * r + r').toUInt8, (16 * g + g').toUInt8, (16 * b + b').toUInt8⟩

/-- The library of CSS: hexadecimal colors and names. -/
def ofCss? : Library
  | '#' :: digits => ofHexDigits? digits
  | name => (codeOf? cssNames name).map ofCode

theorem readsHex_ofCss? : Library.ReadsHex ofCss? := by
  intro digits r r' g g' b b' hdigits
  simp [ofCss?, ofHexDigits?, hdigits]

/-- Reads a color specification with a library: as a notation that the library knows, else as a name of
X11 or a level of gray. The library also reads the hexadecimal code of these. -/
def ofSpecBy? (library : Library) (spec : Text) : Option Color :=
  let name := (Text.trim spec).map Char.toLower
  (library name).or
    ((((codeOf? x11Names name).map ofCode).or (ofGrayLevel? name)).bind fun color =>
      library (color.toHex.map Char.toLower))

/-! ## Codes -/

/-- A hexadecimal digit is read back in lower case. -/
theorem hexValue?_toLower_hexDigit {value : Nat} (h : value < 16) :
    hexValue? (hexDigit value).toLower = some value := by
  have hall : ∀ digit : Fin 16, hexValue? (hexDigit digit).toLower = some digit.val := by decide
  exact hall ⟨value, h⟩

/-- The digits of the code of a color are those of its channels. -/
theorem mapM_hexValue?_toHex (color : Color) :
    ((hexByte color.red ++ hexByte color.green ++ hexByte color.blue).map Char.toLower).mapM hexValue? =
      some [color.red.toNat / 16, color.red.toNat % 16, color.green.toNat / 16,
        color.green.toNat % 16, color.blue.toNat / 16, color.blue.toNat % 16] := by
  have hhigh (channel : UInt8) : channel.toNat / 16 < 16 := by
    have := channel.toNat_lt
    omega
  have hlow (channel : UInt8) : channel.toNat % 16 < 16 := Nat.mod_lt _ (by decide)
  simp [hexByte, hexValue?_toLower_hexDigit, hhigh, hlow]

/-- A channel is put together from its two digits. -/
theorem toUInt8_digits (channel : UInt8) :
    (16 * (channel.toNat / 16) + channel.toNat % 16).toUInt8 = channel := by
  rw [Nat.div_add_mod]
  exact UInt8.ofNat_toNat

/-- A library that reads hexadecimal colors reads the code of every color. -/
theorem Library.ReadsHex.code {library : Library} (h : library.ReadsHex) (color : Color) :
    library (color.toHex.map Char.toLower) = some color := by
  have hcode := h _ _ _ _ _ _ _ (mapM_hexValue?_toHex color)
  rw [toUInt8_digits, toUInt8_digits, toUInt8_digits] at hcode
  exact hcode

/-- A library that reads hexadecimal colors knows every specification of six digits. -/
theorem Library.ReadsHex.isSome_ofSpecBy? {library : Library} (h : library.ReadsHex) {digits : Text}
    (hlength : digits.length = 6) (hdigits : ∀ c ∈ digits, CharClass.hexDigit.contains c = true) :
    (ofSpecBy? library ('#' :: digits)).isSome = true := by
  have hspec : IsSpec ('#' :: digits) := .inr ⟨digits, rfl, hlength, hdigits⟩
  have hname : (Text.trim ('#' :: digits)).map Char.toLower = '#' :: digits.map Char.toLower := by
    rw [Text.trim_of_not_isBlank hspec.isBlank_eq_false, List.map_cons]
    rfl
  have hvalues : ∀ c ∈ digits.map Char.toLower, (hexValue? c).isSome = true := by
    simpa [isSome_hexValue?_toLower_iff] using hdigits
  obtain ⟨r, r', g, g', b, b', hread⟩ := exists_mapM_hexValue? (by simpa using hlength) hvalues
  rw [ofSpecBy?, hname, h _ _ _ _ _ _ _ hread, Option.some_or]
  rfl

/-- A digit of a code is a hexadecimal digit. -/
theorem contains_hexDigit_of_isUpperHexDigit {c : Char} (h : isUpperHexDigit c = true) :
    CharClass.hexDigit.contains c = true := by
  have hbounds : (48 ≤ c.toNat ∧ c.toNat ≤ 57) ∨ (65 ≤ c.toNat ∧ c.toNat ≤ 70) := by
    simpa [isUpperHexDigit, Char.isDigit, Char.le_def, UInt32.le_iff_toNat_le] using h
  simp only [CharClass.contains_iff, CharClass.hexDigit, List.mem_cons, List.not_mem_nil, or_false,
    exists_eq_or_imp, exists_eq_left]
  omega

/-- No blank is taken off the code of a color. -/
theorem trim_toHex (color : Color) : Text.trim color.toHex = color.toHex := by
  obtain ⟨digits, hcode, hlength, hdigits⟩ := isCode_toHex color
  have hspec : IsSpec color.toHex :=
    .inr ⟨digits, hcode, hlength, fun c hc => contains_hexDigit_of_isUpperHexDigit (hdigits c hc)⟩
  exact Text.trim_of_not_isBlank hspec.isBlank_eq_false

/-! ## Specifications -/

/-- The code of a color stands for the color. -/
theorem ofSpecBy?_toHex {library : Library} (h : library.ReadsHex) (color : Color) :
    ofSpecBy? library color.toHex = some color := by
  rw [ofSpecBy?, trim_toHex, h.code, Option.some_or]

/-- Blanks around a specification do not matter. -/
theorem ofSpecBy?_trim (library : Library) (spec : Text) :
    ofSpecBy? library (Text.trim spec) = ofSpecBy? library spec := by
  rw [ofSpecBy?, (Text.isTrimmed_trim spec).trim_eq, ofSpecBy?]

/-- Neither a name of X11 nor a level of gray starts like a hexadecimal color. -/
theorem ofGrayLevel?_or_of_hex (digits : Text) :
    ((codeOf? x11Names ('#' :: digits)).map ofCode).or (ofGrayLevel? ('#' :: digits)) = none := by
  simp [codeOf?, x11Names, ofGrayLevel?]

/-- A specification is read with the library of CSS. -/
theorem ofSpec?_eq (spec : Text) : ofSpec? spec = ofSpecBy? ofCss? spec := by
  have hcode : ∀ found : Option Color,
      (found.bind fun color => ofCss? (color.toHex.map Char.toLower)) = found := by
    intro found
    cases found with
    | none => rfl
    | some color => exact readsHex_ofCss?.code color
  simp only [ofSpec?, ofSpecBy?, hcode]
  split
  · rename_i digits hname
    rw [hname, ofGrayLevel?_or_of_hex, Option.or_none, ofCss?]
  · rename_i hname
    rw [ofCss?]
    exact hname

end Color

namespace Fill

open Color

/-- The fill of a specification that is read with a library. -/
def ofSpecBy (library : Library) (spec : Text) : Fill :=
  match ofSpecBy? library spec with
  | some color => ofColor color
  | none => ⟨Text.trim spec, none⟩

theorem ofSpec_eq : ofSpec = ofSpecBy ofCss? := by
  funext spec
  rw [ofSpec, ofSpec?_eq]
  rfl

/-- Whether resolving specifications **settles**: the code of every color stands for the color, and what
a specification is resolved to is resolved to itself. -/
structure IsSettled (resolve : Text → Fill) : Prop where
  /-- The code of a color stands for the color. -/
  code : ∀ color : Color, resolve color.toHex = ofColor color
  /-- Resolving once more changes nothing. -/
  again : ∀ spec, resolve (resolve spec).color = resolve spec

/-- Resolving settles with every library that reads hexadecimal colors. -/
theorem isSettled_ofSpecBy {library : Library} (h : library.ReadsHex) :
    IsSettled (ofSpecBy library) := by
  have hcode (color : Color) : ofSpecBy library color.toHex = ofColor color := by
    rw [ofSpecBy, ofSpecBy?_toHex h]
  refine ⟨hcode, fun spec => ?_⟩
  cases hspec : ofSpecBy? library spec with
  | some color =>
    have hfill : ofSpecBy library spec = ofColor color := by rw [ofSpecBy, hspec]
    rw [hfill]
    exact hcode color
  | none =>
    -- The trimmed text is as little known as the text itself.
    have hfill : ofSpecBy library spec = ⟨Text.trim spec, none⟩ := by rw [ofSpecBy, hspec]
    rw [hfill, ofSpecBy, ofSpecBy?_trim, hspec, (Text.isTrimmed_trim spec).trim_eq]

/-- **Resolving a color twice** is resolving it once, for specifications that are known and for those
that are not; with any other library that reads hexadecimal colors this is so as well. -/
theorem isSettled_ofSpec :
    IsSettled ofSpec ∧ ∀ library : Library, library.ReadsHex → IsSettled (ofSpecBy library) :=
  ⟨ofSpec_eq ▸ isSettled_ofSpecBy readsHex_ofCss?, fun _ => isSettled_ofSpecBy⟩

/-- Three digits and a name of CSS, with letters of either case and blanks around them. -/
theorem isSettled_ofSpec_names :
    (ofSpec " #fA0 ".toList).color = "#FFAA00".toList ∧
      (ofSpec " AliceBlue".toList).color = "#F0F8FF".toList ∧
      Library.ReadsHex ofCss? ∧ IsSettled (ofSpecBy ofCss?) :=
  ⟨by decide +kernel, by decide +kernel, readsHex_ofCss?, isSettled_ofSpec.2 ofCss? readsHex_ofCss?⟩

end Fill

end UmlSketch
