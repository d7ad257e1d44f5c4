import UmlSketch.Decimal.Basic

/-! # Numbers in TOML
An integer is written in base ten, two, eight or sixteen, and any other number in base ten with a
fraction or an exponent; underscores may stand between digits. A number is read exactly as it is
written, and `Number.fits` says whether it is in the range that is of use: 128 bits for an integer,
double precision for the others. -/

namespace UmlSketch.Toml

/-- A **number**. -/
inductive Number
  /-- An integer. -/
  | integer (value : Int)
  /-- The number `significand * 10 ^ exponent`, which has a sign. -/
  | decimal (negative : Bool) (significand : Nat) (exponent : Int)
  /-- An infinite number, or none at all. -/
  | notFinite
  deriving DecidableEq, Repr

/-! ## Digits -/

/-- A word of digits without the underscores between them; an underscore stands between two digits. -/
def digits? (isDigit : Char → Bool) (text : Text) : Option Text :=
  let groups := Text.fields '_' text
  if groups.all fun group => group ≠ [] && group.all isDigit then some groups.flatten else none

/-- A word without the sign in front of it, and whether the sign is a minus. -/
def splitSign : Text → Bool × Text
  | '-' :: rest => (true, rest)
  | '+' :: rest => (false, rest)
  | text => (false, text)

/-- The number that digits write in a base; the digits beyond nine are letters. -/
def natOfDigits (base : Nat) (digits : Text) : Nat :=
  digits.foldl (fun value c =>
    base * value + if c.isDigit then c.toNat - '0'.toNat else c.toLower.toNat - 'a'.toNat + 10) 0

/-- An integer with or without a minus. -/
def signed (negative : Bool) (magnitude : Nat) : Int :=
  if negative then -(magnitude : Int) else magnitude

/-- The whole part of a number in base ten: digits without a zero in front of others. -/
def wholeDigits? (text : Text) : Option Text :=
  (digits? Char.isDigit text).bind fun digits =>
    if digits.head? = some '0' && digits ≠ ['0'] then none else some digits

/-! ## Reading -/

/-- The number that a word without a sign writes in base two, eight, sixteen or ten. -/
def magnitude? (text : Text) : Option Nat :=
  match text with
  | '0' :: 'x' :: rest =>
    (digits? (fun c => c.isDigit || ('a' ≤ c.toLower && c.toLower ≤ 'f')) rest).map (natOfDigits 16)
  | '0' :: 'o' :: rest => (digits? (fun c => '0' ≤ c && c ≤ '7') rest).map (natOfDigits 8)
  | '0' :: 'b' :: rest => (digits? (fun c => c = '0' || c = '1') rest).map (natOfDigits 2)
  | _ => (wholeDigits? text).map (natOfDigits 10)

/-- The integer that a word writes. Only those in base ten have a sign. -/
def integer? (text : Text) : Option Int :=
  let (negative, unsigned) := splitSign text
  if unsigned = text then (magnitude? text).map Int.ofNat
  else (wholeDigits? unsigned).map fun digits => signed negative (natOfDigits 10 digits)

/-- Cuts a word before the first character of a class. -/
def splitAtFirst (isIn : Char → Bool) (text : Text) : Text × Text :=
  text.span fun c => !isIn c

/-- The digits of a fraction with its point; there may be none. -/
def fraction? : Text → Option Text
  | [] => some []
  | _ :: digits => digits? Char.isDigit digits

/-- The exponent that is written after its letter; there may be none. -/
def exponent? : Text → Option Int
  | [] => some 0
  | _ :: rest =>
    let (negative, unsigned) := splitSign rest
    (digits? Char.isDigit unsigned).map fun digits => signed negative (natOfDigits 10 digits)

/-- The number that a word with a fraction or an exponent writes. -/
def decimal? (text : Text) : Option Number :=
  let (negative, unsigned) := splitSign text
  let (mantissa, exponent) := splitAtFirst (fun c => c = 'e' || c = 'E') unsigned
  let (whole, fraction) := splitAtFirst (· = '.') mantissa
  if exponent = [] && fraction = [] then none
  else do
    let whole ← wholeDigits? whole
    let fraction ← fraction? fraction
    let exponent ← exponent? exponent
    some (.decimal negative (natOfDigits 10 (whole ++ fraction)) (exponent - (fraction.length : Int)))

/-- The number that a word writes. -/
def Number.ofText? (text : Text) : Option Number :=
  let unsigned := (splitSign text).2
  if unsigned = "inf".toList || unsigned = "nan".toList then some .notFinite
  else ((integer? text).map Number.integer).or (decimal? text)

/-! ## Range -/

/-- The least number that is rounded to infinity in double precision: half a unit of the last place
above the greatest finite one. -/
def doubleBound : Nat := Nat.pow 2 1024 - Nat.pow 2 970

/-- Whether `significand * 10 ^ exponent` is below `doubleBound`, which has 309 digits. -/
def fitsDouble (significand : Nat) (exponent : Int) : Bool :=
  let magnitude : Int := (Decimal.digitsOf significand).length + exponent
  significand = 0 || magnitude < 309 ||
    (magnitude = 309 &&
      significand * Nat.pow 10 exponent.toNat < doubleBound * Nat.pow 10 (-exponent).toNat)

/-- Whether a number is in range: an integer fits 128 bits, signed if it is negative, and another number
is finite in double precision or written as one that is not. -/
def Number.fits : Number → Bool
  | .integer value => -(Nat.pow 2 127 : Int) ≤ value && value < (Nat.pow 2 128 : Int)
  | .decimal _ significand exponent => fitsDouble significand exponent
  | .notFinite => true

end UmlSketch.Toml
