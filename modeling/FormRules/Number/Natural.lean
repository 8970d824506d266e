/-!
# Natural numbers in arguments

An argument that counts something is written as decimal digits, with an
optional plus sign, and must fit a machine word.
-/

namespace FormRules.Number

/-- Why a text is not a count. -/
inductive NaturalFault where
  | empty
  | invalidDigit
  | tooLarge
  deriving DecidableEq, Repr

/-- The reason given for a text that is not a count. -/
def NaturalFault.reason : NaturalFault → String
  | .empty => "cannot parse integer from empty string"
  | .invalidDigit => "invalid digit found in string"
  | .tooLarge => "number too large to fit in target type"

/-- The first number that is too large to count with. -/
def naturalLimit : Nat := 18446744073709551616

/-- The value of a decimal digit. -/
def digitValue (c : Char) : Nat :=
  c.toNat - '0'.toNat

/-- The value of a hexadecimal digit. -/
def hexValue? (c : Char) : Option Nat :=
  if c.isDigit then some (digitValue c)
  else if 'a' ≤ c ∧ c ≤ 'f' then some (c.toNat - 'a'.toNat + 10)
  else if 'A' ≤ c ∧ c ≤ 'F' then some (c.toNat - 'A'.toNat + 10)
  else none

/-- Read digits from the left onto the number read so far.  The first
character that is no digit, or whose digit takes the number to the limit, is
the fault. -/
def readDigits (value : Nat) : List Char → Except NaturalFault Nat
  | [] => .ok value
  | c :: rest =>
      if c.isDigit then
        if 10 * value + digitValue c < naturalLimit then
          readDigits (10 * value + digitValue c) rest
        else
          .error .tooLarge
      else
        .error .invalidDigit

/-- Read a count: one or more digits after an optional plus sign. -/
def readNatural : List Char → Except NaturalFault Nat
  | [] => .error .empty
  | ['+'] => .error .invalidDigit
  | '+' :: rest => readDigits 0 rest
  | cs => readDigits 0 cs

end FormRules.Number
