import UmlSketch.Decimal.Basic

/-! # Shortest decimals
A binary floating-point number stands for every real that rounds to it. Its shortest decimal has the
fewest digits among those reals, and of two such decimals it is the one nearer to the number. All is
computed in exact arithmetic on the significand and the exponent. -/

namespace UmlSketch

/-- A positive number `significand * 2 ^ exponent` of a binary format, with its two neighbours. -/
structure BinaryNumber where
  /-- The significand, as an integer. -/
  significand : Nat
  /-- The power of two that the significand is multiplied by. -/
  exponent : Int
  /-- Whether the next smaller number is only half a unit of the last place away: so it is at a
  power of two. -/
  narrowBelow : Bool
  deriving DecidableEq, Repr

/-- The parameters of a binary format. -/
structure BinaryFormat where
  /-- The number of bits stored of a significand. -/
  significandBits : Nat
  /-- The number of bits of the exponent field. -/
  exponentBits : Nat
  /-- The power of two of the last place of the smallest numbers. -/
  leastExponent : Int
  deriving DecidableEq, Repr

namespace BinaryFormat

/-- Single precision. -/
def single : BinaryFormat := ⟨23, 8, -149⟩

/-- Double precision. -/
def double : BinaryFormat := ⟨52, 11, -1074⟩

end BinaryFormat

/-- What a pattern of bits stands for, apart from its sign. -/
inductive BinaryMagnitude
  /-- The number zero. -/
  | zero
  /-- A positive number. -/
  | finite (number : BinaryNumber)
  /-- An infinity. -/
  | infinite
  /-- Not a number. -/
  | undefined
  deriving DecidableEq, Repr

namespace BinaryFormat

/-- Whether the sign bit of a pattern of bits is set. -/
def isNegative (format : BinaryFormat) (bits : Nat) : Bool :=
  bits.testBit (format.significandBits + format.exponentBits)

/-- The magnitude that a pattern of bits stands for. -/
def magnitude (format : BinaryFormat) (bits : Nat) : BinaryMagnitude :=
  let fraction := bits % Nat.pow 2 format.significandBits
  let field := bits / Nat.pow 2 format.significandBits % Nat.pow 2 format.exponentBits
  if field = Nat.pow 2 format.exponentBits - 1 then if fraction = 0 then .infinite else .undefined
  else if field = 0 then
    if fraction = 0 then .zero else .finite ⟨fraction, format.leastExponent, false⟩
  else
    .finite ⟨Nat.pow 2 format.significandBits + fraction, format.leastExponent + (field - 1 : Nat),
      fraction = 0 && 1 < field⟩

end BinaryFormat

namespace BinaryNumber

/-- The number as a quotient of two natural numbers, in units of a quarter of the last place: `4 *
significand` of them make up the number. -/
def quarterUnit (number : BinaryNumber) : Nat × Nat :=
  match number.exponent - 2 with
  | .ofNat shift => (Nat.pow 2 shift, 1)
  | .negSucc shift => (1, Nat.pow 2 (shift + 1))

/-- The multiple of the grid's step that is nearest to `value` among the two neighbours of `value`
that lie in the interval; a tie goes to the larger one. -/
def nearestOnGrid? (inInterval : Nat → Bool) (value step : Nat) : Option Nat :=
  let below := value / step
  let fitsBelow := below ≠ 0 && inInterval (below * step)
  let fitsAbove := inInterval ((below + 1) * step)
  if fitsBelow && (!fitsAbove || 2 * (value - below * step) < step) then some below
  else if fitsAbove then some (below + 1)
  else none

/-- The decimal on the grid of step `10 ^ power`, if the reals that round to the number have one. -/
def onGrid? (number : BinaryNumber) (power : Int) : Option Decimal :=
  let (numerator, denominator) := number.quarterUnit
  let unit := numerator * Nat.pow 10 (-power).toNat
  let step := denominator * Nat.pow 10 power.toNat
  let low := (4 * number.significand - if number.narrowBelow then 1 else 2) * unit
  let high := (4 * number.significand + 2) * unit
  let inInterval (x : Nat) : Bool :=
    if number.significand % 2 = 0 then low ≤ x && x ≤ high else low < x && x < high
  (nearestOnGrid? inInterval (4 * number.significand * unit) step).map fun multiple =>
    ⟨false, multiple * Nat.pow 10 power.toNat, (-power).toNat⟩

/-- Tries the grids from the given power of ten on, each ten times finer than the one before. -/
def firstOnGrids (number : BinaryNumber) : Nat → Int → Decimal
  | 0, _ => .ofNat 0
  | tries + 1, power => (number.onGrid? power).getD (firstOnGrids number tries (power - 1))

/-- The shortest decimal among the reals that round to the number. The search starts at a power of
ten above the number and ends at the latest where every multiple of the last place lies on the
grid. -/
def shortest (number : BinaryNumber) : Decimal :=
  let (numerator, denominator) := number.quarterUnit
  let whole := 4 * number.significand * numerator / denominator
  let start := (Decimal.digitsOf whole).length
  firstOnGrids number (start + 1 + (2 - number.exponent).toNat) start

end BinaryNumber

namespace Decimal

/-- The text of a number given by its bits: the shortest decimal, or a word if it has none. -/
def renderBits (format : BinaryFormat) (bits : Nat) : Text :=
  let negative := format.isNegative bits
  let sign : Text := if negative then ['-'] else []
  match format.magnitude bits with
  | .zero => render ⟨negative, 0, 0⟩
  | .finite number => render { number.shortest with negative }
  | .infinite => sign ++ "inf".toList
  | .undefined => "NaN".toList

/-- The shortest decimal of a number in single precision; zero if it is not finite. -/
def ofFloat32 (x : Float32) : Decimal :=
  let bits := x.toBits.toNat
  match BinaryFormat.single.magnitude bits with
  | .finite number => { number.shortest with negative := BinaryFormat.single.isNegative bits }
  | _ => ⟨BinaryFormat.single.isNegative bits, 0, 0⟩

/-- The number in single precision that is nearest to a decimal. -/
def toFloat32 (d : Decimal) : Float32 :=
  let magnitude := Float32.ofScientific d.digits true d.places
  if d.negative then -magnitude else magnitude

/-- The number in double precision that is nearest to a decimal. -/
def toFloat (d : Decimal) : Float :=
  let magnitude := Float.ofScientific d.digits true d.places
  if d.negative then -magnitude else magnitude

end Decimal

/-- The text of a number in single precision. -/
def renderFloat32 (x : Float32) : Text := Decimal.renderBits .single x.toBits.toNat

/-- The text of a number in double precision. -/
def renderFloat (x : Float) : Text := Decimal.renderBits .double x.toBits.toNat

end UmlSketch
