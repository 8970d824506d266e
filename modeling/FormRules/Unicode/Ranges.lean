/-!
# Ranges of code points

A set of characters is a list of ranges of code points.  The tables hold such
lists as text: every range is two numbers, the gap before it and its length
less one, and a number is letters in base twenty-six, lower case up to the last
digit, which is upper case.
-/

namespace FormRules.Unicode

/-- Ranges of code points, each with both its ends. -/
abbrev Ranges := List (Nat × Nat)

/-- Does a code point lie in one of the ranges? -/
def Ranges.mem (ranges : Ranges) (n : Nat) : Bool :=
  ranges.any fun r => decide (r.1 ≤ n) && decide (n ≤ r.2)

/-- The numbers of an encoded table; `value` holds the digits read so far. -/
def decodeNumbers (value : Nat) : List Char → List Nat
  | [] => []
  | c :: rest =>
      if c.isLower then
        decodeNumbers (26 * value + (c.toNat - 'a'.toNat)) rest
      else
        (26 * value + (c.toNat - 'A'.toNat)) :: decodeNumbers 0 rest

/-- The ranges that start at or after `start`, from gaps and lengths. -/
def decodeRanges (start : Nat) : List Nat → Ranges
  | gap :: length :: rest =>
      (start + gap, start + gap + length) :: decodeRanges (start + gap + length + 1) rest
  | _ => []

/-- The ranges of an encoded table, given line by line. -/
def Ranges.decode (table : List String) : Ranges :=
  decodeRanges 0 (decodeNumbers 0 (table.flatMap String.toList))

namespace Ranges

/-- Join ranges that touch, given in the order of their starts; `current` is
the range that grows. -/
def joinOnto (current : Nat × Nat) : Ranges → Ranges
  | [] => [current]
  | r :: rest =>
      if r.1 ≤ current.2 + 1 then
        joinOnto (current.1, max current.2 r.2) rest
      else
        current :: joinOnto r rest

/-- The same set as ranges in order that do not touch. -/
def normalize (ranges : Ranges) : Ranges :=
  match ranges.mergeSort (fun a b => decide (a.1 ≤ b.1)) with
  | [] => []
  | r :: rest => joinOnto r rest

/-- The code points from `start` on that lie in none of the ranges, which are
in order. -/
def gaps (start : Nat) : Ranges → Ranges
  | [] => if start ≤ 0x10FFFF then [(start, 0x10FFFF)] else []
  | r :: rest =>
      if start < r.1 then (start, r.1 - 1) :: gaps (r.2 + 1) rest else gaps (r.2 + 1) rest

/-- The code points that lie in none of the ranges. -/
def compl (ranges : Ranges) : Ranges :=
  gaps 0 ranges.normalize

/-- The code points that lie in ranges of both lists. -/
def inter (a b : Ranges) : Ranges :=
  compl (a.compl ++ b.compl)

/-- The ranges of single code points. -/
def ofList (ns : List Nat) : Ranges :=
  ns.map fun n => (n, n)

end Ranges

/-- The ranges under a name in a list of encoded tables. -/
def Ranges.named? (tables : List (List String × List String)) (name : String) : Option Ranges :=
  (tables.find? fun entry => entry.1.contains name).map fun entry => .decode entry.2

end FormRules.Unicode
