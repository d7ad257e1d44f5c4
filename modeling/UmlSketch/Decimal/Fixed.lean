import UmlSketch.Decimal.Shortest

/-! # Decimals with a fixed number of places
A number is rounded to a given number of places by its exact value; a tie goes to the even digit. -/

namespace UmlSketch

/-- The integer nearest to `numerator / denominator`; a tie goes to the even one. -/
def roundDivToEven (numerator denominator : Nat) : Nat :=
  let below := numerator / denominator
  let twice := 2 * (numerator % denominator)
  if twice < denominator then below
  else if denominator < twice then below + 1
  else below + below % 2

/-- The decimal of the given number of places that is nearest to a positive number. -/
def BinaryNumber.fixed (number : BinaryNumber) (places : Nat) : Decimal :=
  let (numerator, denominator) := number.quarterUnit
  ⟨false, roundDivToEven (4 * number.significand * numerator * Nat.pow 10 places) denominator, places⟩

/-- The decimal of the given number of places that is nearest to a number in single precision; zero
if it is not finite. -/
def Decimal.ofFloat32Fixed (x : Float32) (places : Nat) : Decimal :=
  let bits := x.toBits.toNat
  let negative := BinaryFormat.single.isNegative bits
  match BinaryFormat.single.magnitude bits with
  | .finite number => { number.fixed places with negative }
  | _ => ⟨negative, 0, places⟩

end UmlSketch
