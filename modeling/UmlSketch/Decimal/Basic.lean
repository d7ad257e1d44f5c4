import UmlSketch.Text.Basic

/-! # Decimal numbers
A finite decimal is a sign, its digits and the number of digits after the point. Drawings and graph
descriptions hold their sizes in this form, written out in full: never with an exponent, and with a
point only if a digit follows it. -/

namespace UmlSketch

/-- A **decimal number**: `digits / 10 ^ places` with a sign. -/
structure Decimal where
  /-- Whether a minus sign is written. -/
  negative : Bool
  /-- All digits, read as one natural number. -/
  digits : Nat
  /-- How many of the digits stand after the point. -/
  places : Nat
  deriving DecidableEq, Repr

namespace Decimal

/-- A natural number as a decimal. -/
def ofNat (n : Nat) : Decimal := ⟨false, n, 0⟩

/-- The decimal `n / 10`. -/
def tenths (n : Nat) : Decimal := ⟨false, n, 1⟩

/-- The decimal `n / 100`. -/
def hundredths (n : Nat) : Decimal := ⟨false, n, 2⟩

/-! ## Writing -/

/-- The digits of a natural number in base ten. -/
def digitsOf (n : Nat) : Text := Nat.toDigits 10 n

/-- Puts zeros in front of a text until it has the given length. -/
def padZeros (length : Nat) (text : Text) : Text :=
  List.replicate (length - text.length) '0' ++ text

/-- The decimal written out. -/
def render (d : Decimal) : Text :=
  let all := padZeros (d.places + 1) (digitsOf d.digits)
  let sign := if d.negative then ['-'] else []
  let whole := all.take (all.length - d.places)
  if d.places = 0 then sign ++ whole
  else sign ++ whole ++ '.' :: all.drop (all.length - d.places)

/-! ## Reading -/

/-- The value of one digit in base ten. -/
def digitValue? (c : Char) : Option Nat := if c.isDigit then some (c.toNat - '0'.toNat) else none

/-- The number that a text of digits writes; the empty text writes zero. -/
def natOfDigits? (text : Text) : Option Nat :=
  text.foldlM (fun value c => (digitValue? c).map (10 * value + ·)) 0

/-- Reads digits with at most one point among them and at least one digit, after an optional sign. -/
def ofText? (text : Text) : Option Decimal :=
  let (negative, unsigned) :=
    match text with
    | '-' :: rest => (true, rest)
    | '+' :: rest => (false, rest)
    | _ => (false, text)
  match Text.fields '.' unsigned with
  | [whole] => if whole = [] then none else (natOfDigits? whole).map fun n => ⟨negative, n, 0⟩
  | [whole, fraction] =>
    if whole ++ fraction = [] then none
    else (natOfDigits? (whole ++ fraction)).map fun n => ⟨negative, n, fraction.length⟩
  | _ => none

end Decimal

end UmlSketch
