import FormRules.Unicode.Ranges

/-!
# Encoded ranges

A code point is written as one to four bytes: a first byte, which tells how many
follow, and for the others digits in base sixty-four.  The code points of a range
are a few blocks, each of which has a range of its own for every byte.
-/

namespace FormRules.Unicode

/-- A range for each byte of an encoded code point. -/
abbrev Block := List (Nat × Nat)

/-- The blocks of the numbers from `first` to `last`, as digits in base
sixty-four; so many digits come after the first one. -/
def digitBlocks : Nat → Nat → Nat → List Block
  | 0, first, last => [[(first, last)]]
  | k + 1, first, last =>
      let unit := 1 <<< (6 * (k + 1))
      let a := first / unit
      let b := last / unit
      if a = b then
        (digitBlocks k (first % unit) (last % unit)).map ((a, a) :: ·)
      else
        let startsWhole := first % unit == 0
        let endsWhole := last % unit == unit - 1
        let head := if startsWhole then [] else
          (digitBlocks k (first % unit) (unit - 1)).map ((a, a) :: ·)
        let tail := if endsWhole then [] else (digitBlocks k 0 (last % unit)).map ((b, b) :: ·)
        let low := if startsWhole then a else a + 1
        let high := if endsWhole then b else b - 1
        let middle := if low ≤ high then [(low, high) :: List.replicate (k + 1) (0, 63)] else []
        head ++ middle ++ tail

/-- The code points with a given number of bytes after the first one, and the
first byte of a code point whose first digit is zero. -/
structure Span where
  more : Nat
  lead : Nat
  first : Nat
  last : Nat

/-- All code points in order.  Surrogates are not encoded. -/
def spans : List Span := [
  ⟨0, 0, 0, 0x7F⟩,
  ⟨1, 0xC0, 0x80, 0x7FF⟩,
  ⟨2, 0xE0, 0x800, 0xD7FF⟩,
  ⟨2, 0xE0, 0xE000, 0xFFFF⟩,
  ⟨3, 0xF0, 0x10000, 0x10FFFF⟩]

/-- A block of digits as a block of bytes. -/
def Span.toBytes (s : Span) : Block → Block
  | [] => []
  | (a, b) :: rest =>
      (s.lead + a, s.lead + b) :: rest.map fun (a, b) => (0x80 + a, 0x80 + b)

/-- The blocks of some ranges, both in order. -/
def Ranges.blocks (ranges : Ranges) : List Block :=
  spans.flatMap fun s =>
    ranges.flatMap fun r =>
      let first := max r.1 s.first
      let last := min r.2 s.last
      if first ≤ last then (digitBlocks s.more first last).map s.toBytes else []

/-- The number of bytes of an encoded code point. -/
def encodedSize (n : Nat) : Nat :=
  if n < 0x80 then 1 else if n < 0x800 then 2 else if n < 0x10000 then 3 else 4

/-- Leave the surrogates out. -/
def Ranges.withoutSurrogates (ranges : Ranges) : Ranges :=
  ranges.filterMap fun (first, last) =>
    let first := if 0xD800 ≤ first ∧ first ≤ 0xDFFF then 0xE000 else first
    let last := if 0xD800 ≤ last ∧ last ≤ 0xDFFF then 0xD7FF else last
    if first ≤ last then some (first, last) else none

end FormRules.Unicode
