import FormRules.Unicode.Casing
import FormRules.Unicode.Ranges

/-!
# Sets of characters

The sets that a pattern can ask one character to be in.  They are kept as
expressions; `CharSet.mem` says which characters an expression denotes, and
`CharSet.ranges` lists their code points.
-/

namespace FormRules

/-- An expression for a set of characters. -/
inductive CharSet where
  /-- The characters from one to another, both included. -/
  | range (first last : Nat)
  /-- The characters of a table. -/
  | table (ranges : Unicode.Ranges)
  | union (a b : CharSet)
  | inter (a b : CharSet)
  | diff (a b : CharSet)
  /-- The characters in exactly one of two sets. -/
  | symmDiff (a b : CharSet)
  | compl (a : CharSet)
  /-- The characters that differ in case alone from one in the set. -/
  | caseFold (a : CharSet)
  /-- The same for ASCII letters only. -/
  | asciiFold (a : CharSet)

namespace CharSet

/-- Is this code point in the set? -/
def memCode : CharSet → Nat → Bool
  | range first last, n => decide (first ≤ n) && decide (n ≤ last)
  | table ranges, n => ranges.mem n
  | union a b, n => a.memCode n || b.memCode n
  | inter a b, n => a.memCode n && b.memCode n
  | diff a b, n => a.memCode n && !b.memCode n
  | symmDiff a b, n => a.memCode n != b.memCode n
  | compl a, n => !a.memCode n
  | caseFold a, n => (Unicode.caseVariants n).any a.memCode
  | asciiFold a, n => (Unicode.asciiCaseVariants n).any a.memCode

/-- Is this character in the set? -/
def mem (s : CharSet) (c : Char) : Bool :=
  s.memCode c.toNat

/-- The ranges of the code points in a set. -/
def ranges : CharSet → Unicode.Ranges
  | range first last => if first ≤ last then [(first, last)] else []
  | table ranges => ranges
  | union a b => a.ranges ++ b.ranges
  | inter a b => a.ranges.inter b.ranges
  | diff a b => a.ranges.inter b.ranges.compl
  | symmDiff a b =>
      let left := a.ranges
      let right := b.ranges
      left.inter right.compl ++ right.inter left.compl
  | compl a => a.ranges.compl
  | caseFold a => Unicode.caseClosure a.ranges.normalize
  | asciiFold a =>
      let letters : Unicode.Ranges := [(0x41, 0x5A), (0x61, 0x7A)]
      let folded := (a.ranges.inter letters).flatMap fun r =>
        if r.2 ≤ 0x5A then [(r.1 + 0x20, r.2 + 0x20)] else [(r.1 - 0x20, r.2 - 0x20)]
      a.ranges ++ folded

/-- The set without characters. -/
def none : CharSet := table []

/-- The set of one character. -/
def single (c : Char) : CharSet := range c.toNat c.toNat

/-- The set of the characters of a text. -/
def ofString (s : String) : CharSet :=
  s.toList.foldr (fun c set => union (single c) set) none

/-- The union of some sets. -/
def unionAll (sets : List CharSet) : CharSet :=
  sets.foldr union none

/-- All characters. -/
def all : CharSet := range 0 0x10FFFF

/-- The ASCII digits. -/
def asciiDigit : CharSet := range 0x30 0x39

/-- The ASCII letters. -/
def asciiLetter : CharSet := union (range 0x41 0x5A) (range 0x61 0x7A)

/-- The ASCII letters and digits. -/
def asciiAlphanumeric : CharSet := union asciiDigit asciiLetter

/-- The ASCII letters, the digits and the low line. -/
def asciiWord : CharSet := union asciiAlphanumeric (single '_')

/-- The ASCII white space. -/
def asciiSpace : CharSet := union (range 0x09 0x0D) (single ' ')

end CharSet

end FormRules
