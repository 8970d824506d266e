/-!
# Shortest decimals

A finite double is written with the fewest digits that read back to it, and of
several such decimals with the nearest one.  `Binary.shortest` finds the digits
in exact arithmetic; `text` lays them out without an exponent.
-/

namespace FormRules.Number

/-- A finite double: its value is `significand * 2 ^ exponent`, negated if
`negative` holds. -/
structure Binary where
  negative : Bool
  significand : Nat
  exponent : Int
  deriving DecidableEq, Repr

/-- A decimal: its value is `digits * 10 ^ exponent`. -/
structure Decimal where
  digits : Nat
  exponent : Int
  deriving DecidableEq, Repr

/-- The exponent of the smallest doubles. -/
def leastExponent : Int := -1074

/-- The least significand of the doubles that have all fifty-three bits. -/
def fullSignificand : Nat := 4503599627370496

/-- How many exponents there are in the bits of a double. -/
def exponentCount : Nat := 2048

/-- The bit that holds the sign of a double. -/
def signBit : Nat := 9223372036854775808

/-- Take the bits of a finite double apart. -/
def Binary.ofBits (bits : UInt64) : Binary :=
  let n : Nat := bits.toNat
  let fraction : Nat := n % fullSignificand
  let biased : Nat := n / fullSignificand % exponentCount
  let negative := decide (signBit ≤ n)
  if biased = 0 then
    ⟨negative, fraction, leastExponent⟩
  else
    ⟨negative, fraction + fullSignificand, leastExponent + (biased - 1)⟩

namespace Binary

/-- A double of significand `m` is `4 * m` of its own units of length; the
unit is `scaleUp / scaleDown`. -/
def scaleUp (b : Binary) : Nat := 1 <<< (b.exponent - 2).toNat

/-- The denominator of the unit of length of a double. -/
def scaleDown (b : Binary) : Nat := 1 <<< (2 - b.exponent).toNat

/-- The lower end, in units of length, of the reals that are nearest to a
double.  Below a power of two the doubles lie twice as close. -/
def lowerEnd (b : Binary) : Nat :=
  if b.significand = fullSignificand ∧ leastExponent < b.exponent then
    4 * b.significand - 1
  else
    4 * b.significand - 2

/-- The upper end, in units of length, of the reals that are nearest to a
double. -/
def upperEnd (b : Binary) : Nat := 4 * b.significand + 2

/-- Numerator and denominator of a double in units of a power of ten. -/
def ratio (b : Binary) (units : Nat) (power : Int) : Nat × Nat :=
  (units * b.scaleUp * Nat.pow 10 (-power).toNat, b.scaleDown * Nat.pow 10 power.toNat)

/-- Does this decimal read back to the double?  The ends of the interval count
for an even significand. -/
def readsBack (b : Binary) (d : Decimal) : Bool :=
  let lower := b.ratio b.lowerEnd d.exponent
  let upper := b.ratio b.upperEnd d.exponent
  if b.significand % 2 = 0 then
    decide (lower.1 ≤ d.digits * lower.2) && decide (d.digits * upper.2 ≤ upper.1)
  else
    decide (lower.1 < d.digits * lower.2) && decide (d.digits * upper.2 < upper.1)

/-- How many digits a double has before its point; zero or less when it is
smaller than a tenth.  No double other than zero is below `10 ^ (-340)`. -/
def magnitude (b : Binary) : Int :=
  let value := b.ratio (4 * b.significand) (-340)
  ((Nat.toDigits 10 (value.1 / value.2)).length : Int) - 340

/-- The nearer of the two neighbours of a double on a decimal grid that reads
back to it, if one does.  Of two equally near ones the upper is taken. -/
def onGrid? (b : Binary) (power : Int) : Option Decimal :=
  let value := b.ratio (4 * b.significand) power
  let below : Decimal := ⟨value.1 / value.2, power⟩
  let above : Decimal := ⟨value.1 / value.2 + 1, power⟩
  match b.readsBack below, b.readsBack above with
  | true, true =>
      if 2 * value.1 < (below.digits + above.digits) * value.2 then some below else some above
  | true, false => some below
  | false, true => some above
  | false, false => none

/-- The most digits that are needed to tell two doubles apart. -/
def maxDigits : Nat := 17

/-- The shortest decimal that reads back to a double, found on the coarsest
grid that has one. -/
def shortest (b : Binary) : Decimal :=
  let magnitude := b.magnitude
  let grids := (List.range maxDigits).map fun (n : Nat) => magnitude - (n + 1 : Int)
  (grids.findSome? b.onGrid?).getD ⟨0, 0⟩

end Binary

/-- Write a decimal without an exponent and without zeros at the end of its
fraction. -/
def Decimal.positional (d : Decimal) : String :=
  let digits := Nat.toDigits 10 d.digits
  if 0 ≤ d.exponent then
    String.ofList (digits ++ List.replicate d.exponent.toNat '0')
  else
    let places := d.exponent.natAbs
    let padded := List.replicate (places + 1 - digits.length) '0' ++ digits
    let whole := padded.take (padded.length - places)
    let fraction := padded.drop (padded.length - places)
    let fraction := (fraction.reverse.dropWhile (· == '0')).reverse
    String.ofList (if fraction = [] then whole else whole ++ '.' :: fraction)

/-- The text of a number: its shortest decimal without an exponent, whole
numbers without a point, and zero with its sign. -/
def text (x : Float) : String :=
  if x.isNaN then
    "NaN"
  else
    let b := Binary.ofBits x.toBits
    let magnitude :=
      if x.isInf then "inf"
      else if b.significand = 0 then "0"
      else b.shortest.positional
    if b.negative then "-" ++ magnitude else magnitude

/-- Is this number a whole even number?  Infinities are not. -/
def isEven (x : Float) : Bool :=
  if x.isNaN || x.isInf then
    false
  else
    let b := Binary.ofBits x.toBits
    decide (0 < b.exponent) || b.significand % (1 <<< (1 - b.exponent).toNat) == 0

end FormRules.Number
