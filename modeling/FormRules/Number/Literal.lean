import FormRules.Number.Natural

/-!
# Number literals

The decimal literals that stand for double-precision numbers: an optional
sign, then digits with an optional point and an optional exponent, or one of
the words `inf`, `infinity` and `nan` in any case.  A literal stands for the
nearest number, halves going to the even neighbour.
-/

namespace FormRules.Number

/-- Why a text is not a number. -/
inductive LiteralFault where
  | empty
  | invalid
  deriving DecidableEq, Repr

/-- The reason given for a text that is not a number. -/
def LiteralFault.reason : LiteralFault → String
  | .empty => "cannot parse float from empty string"
  | .invalid => "invalid float literal"

/-- The number that a string of digits denotes. -/
def digitsValue (digits : List Char) : Nat :=
  digits.foldl (fun value c => 10 * value + digitValue c) 0

/-- The exponent after its letter: an optional sign and at least one digit, up
to the end of the text. -/
def readExponent : List Char → Option Int
  | '-' :: digits => (magnitude digits).map fun n => -(n : Int)
  | '+' :: digits => (magnitude digits).map fun n => (n : Int)
  | digits => (magnitude digits).map fun n => (n : Int)
where
  magnitude (digits : List Char) : Option Nat :=
    if digits ≠ [] ∧ digits.all Char.isDigit then some (digitsValue digits) else none

/-- The digits and the power of ten of an unsigned literal without words. -/
def readDecimal (cs : List Char) : Option (Nat × Int) :=
  let whole := cs.takeWhile Char.isDigit
  let rest := cs.dropWhile Char.isDigit
  let (fraction, rest) :=
    match rest with
    | '.' :: rest => (rest.takeWhile Char.isDigit, rest.dropWhile Char.isDigit)
    | rest => ([], rest)
  if whole = [] ∧ fraction = [] then
    none
  else
    let exponent :=
      match rest with
      | [] => some 0
      | c :: rest => if c = 'e' ∨ c = 'E' then readExponent rest else none
    exponent.map fun e => (digitsValue (whole ++ fraction), e - fraction.length)

/-- The double nearest to `digits * 10 ^ exponent`.  Beyond a thousand places
on either side of the point the value is infinite or zero, so no such power is
ever computed. -/
def nearest (digits : Nat) (exponent : Int) : Float :=
  let size : Int := exponent + (Nat.toDigits 10 digits).length
  if digits = 0 ∨ size < -1000 then
    0
  else if 1000 < size then
    1 / 0
  else if exponent < 0 then
    Float.ofScientific digits true exponent.natAbs
  else
    Float.ofScientific digits false exponent.natAbs

/-- The words for infinity and for the value that is no number. -/
def readWord (cs : List Char) : Option Float :=
  let word := cs.map Char.toLower
  if word = "inf".toList ∨ word = "infinity".toList then
    some (1 / 0)
  else if word = "nan".toList then
    some (0 / 0)
  else
    none

/-- Read an unsigned literal. -/
def readUnsigned (cs : List Char) : Option Float :=
  match readDecimal cs with
  | some (digits, exponent) => some (nearest digits exponent)
  | none => readWord cs

/-- Read a literal. -/
def readFloat (cs : List Char) : Except LiteralFault Float :=
  match cs with
  | [] => .error .empty
  | '-' :: rest => ((readUnsigned rest).map Float.neg).elim (.error .invalid) .ok
  | '+' :: rest => (readUnsigned rest).elim (.error .invalid) .ok
  | cs => (readUnsigned cs).elim (.error .invalid) .ok

end FormRules.Number
