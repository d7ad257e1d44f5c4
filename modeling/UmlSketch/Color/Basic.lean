import UmlSketch.Color.Names
import UmlSketch.Decimal.Fixed
import UmlSketch.Text.CharClass

/-! # Colors
A color has three channels of eight bits. A specification names a color of CSS or X11, gives its
channels in hexadecimal, or asks for a level of gray from `0` to `100`; letters may be of either case
and blanks may stand around it. -/

namespace UmlSketch

/-- A **color**: its red, green and blue channels. -/
structure Color where
  /-- The red channel. -/
  red : UInt8
  /-- The green channel. -/
  green : UInt8
  /-- The blue channel. -/
  blue : UInt8
  deriving DecidableEq, Repr

namespace Color

/-- The color whose code is `red * 2 ^ 16 + green * 2 ^ 8 + blue`. -/
def ofCode (code : Nat) : Color :=
  ⟨(code / 0x10000).toUInt8, (code / 0x100).toUInt8, code.toUInt8⟩

/-- The gray whose three channels are equal. -/
def gray (channel : Nat) : Color := ⟨channel.toUInt8, channel.toUInt8, channel.toUInt8⟩

/-! ## Hexadecimal -/

/-- The value of a hexadecimal digit, letters in lower case. -/
def hexValue? (c : Char) : Option Nat :=
  if c.isDigit then some (c.toNat - '0'.toNat)
  else if 'a' ≤ c ∧ c ≤ 'f' then some (c.toNat - 'a'.toNat + 10)
  else none

/-- The hexadecimal digit of a value below sixteen, letters in upper case. -/
def hexDigit (value : Nat) : Char :=
  if value < 10 then Char.ofNat ('0'.toNat + value) else Char.ofNat ('A'.toNat + (value - 10))

/-- The two hexadecimal digits of a channel. -/
def hexByte (channel : UInt8) : Text :=
  [hexDigit (channel.toNat / 16), hexDigit (channel.toNat % 16)]

/-- The color as `#` and six hexadecimal digits in upper case. -/
def toHex (color : Color) : Text :=
  '#' :: (hexByte color.red ++ hexByte color.green ++ hexByte color.blue)

/-- Reads the hexadecimal digits of a color: three or six, or with an opacity that is dropped four or
eight. A single digit for a channel stands for the same digit twice. -/
def ofHexDigits? (text : Text) : Option Color :=
  match text.mapM hexValue? with
  | some [r, g, b] | some [r, g, b, _] =>
    some ⟨(17 * r).toUInt8, (17 * g).toUInt8, (17 * b).toUInt8⟩
  | some [r, r', g, g', b, b'] | some [r, r', g, g', b, b', _, _] =>
    some ⟨(16 * r + r').toUInt8, (16 * g + g').toUInt8, (16 * b + b').toUInt8⟩
  | _ => none

/-! ## Levels of gray -/

/-- Reads the number of a gray level: digits after an optional plus sign, at most `100`. -/
def grayLevel? (text : Text) : Option Nat :=
  let digits := if text.head? = some '+' then text.tail else text
  if digits = [] then none else (Decimal.natOfDigits? digits).filter (· ≤ 100)

/-- Reads `gray` or `grey` and a level; the channels are the level's share of `255`, rounded, a half
going up. -/
def ofGrayLevel? (name : Text) : Option Color :=
  let level? :=
    match name with
    | 'g' :: 'r' :: 'a' :: 'y' :: level | 'g' :: 'r' :: 'e' :: 'y' :: level => grayLevel? level
    | _ => none
  level?.map fun level => gray ((255 * level + 50) / 100)

/-! ## Specifications -/

/-- Reads a color specification: a hexadecimal color or a name of CSS, else a name of X11, else a
level of gray. -/
def ofSpec? (spec : Text) : Option Color :=
  let name := (Text.trim spec).map Char.toLower
  match name with
  | '#' :: digits => ofHexDigits? digits
  | _ =>
    ((codeOf? cssNames name).map ofCode).or
      (((codeOf? x11Names name).map ofCode).or (ofGrayLevel? name))

/-! ## Contrast -/

/-- The luminance on a scale from `0` to `255`, with the weights of Rec. 709. -/
def luminance (color : Color) : Float32 :=
  0.2126 * Float32.ofNat color.red.toNat + 0.7152 * Float32.ofNat color.green.toNat +
    0.0722 * Float32.ofNat color.blue.toNat

/-- Whether text on the color has to be white: its luminance is less than half the scale. -/
def isDark (color : Color) : Bool := color.luminance < 128

end Color

end UmlSketch
