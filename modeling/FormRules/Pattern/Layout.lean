import FormRules.Pattern.Basic
import FormRules.Unicode.Encoding

/-!
# The layout of a pattern

Patterns that are written differently can have the same layout: texts that stand
next to each other are one text, a choice between single characters is a set,
and a start that all the alternatives of a choice have in common stands before
the choice.  `Layout.sequence`, `Layout.choice` and `Layout.repeated` build layouts
that cannot be simplified this way any more.
-/

namespace FormRules

/-- A pattern with what its size depends on: which groups it captures and which
repetitions are lazy.  The first part of a sequence is no sequence, and the first
alternative of a choice is no choice. -/
inductive Layout where
  | empty
  /-- Fixed characters, one or more. -/
  | text (cs : List Char)
  /-- One character out of a set: none, or several.  `bytewise` says that the
  set is one of ASCII characters by their bytes. -/
  | set (bytewise : Bool) (ranges : Unicode.Ranges)
  | look (a : Anchor)
  | seq (a b : Layout)
  | alt (a b : Layout)
  | iter (s : Layout) (min : Nat) (max : Option Nat) (isLazy : Bool)
  /-- A part whose match is captured. -/
  | group (s : Layout)
  deriving DecidableEq

namespace Layout

/-- One character out of no set. -/
def never : Layout := set true []

/-- One character out of the given ranges.  If there is one character only, it
is a text. -/
def ofRanges (bytewise : Bool) (ranges : Unicode.Ranges) : Layout :=
  match ranges.normalize.withoutSurrogates with
  | [] => never
  | [(first, last)] =>
      if first = last then text [Char.ofNat first] else set bytewise [(first, last)]
  | ranges => set bytewise ranges

/-- One character out of a set. -/
def ofSet (bytewise : Bool) (s : CharSet) : Layout :=
  ofRanges bytewise s.ranges

/-- The least number of bytes that a text of this layout has, if there is one. -/
def minLength : Layout → Option Nat
  | empty => some 0
  | text cs => some ((cs.map Char.utf8Size).foldl (· + ·) 0)
  | set _ ranges => ranges.head?.map fun r => Unicode.encodedSize r.1
  | look _ => some 0
  | seq a b => do pure ((← a.minLength) + (← b.minLength))
  | alt a b => do pure (min (← a.minLength) (← b.minLength))
  | iter s min _ _ => s.minLength.map (min * ·)
  | group s => s.minLength

/-- The greatest number of bytes that a text of this layout has, if there is
one. -/
def maxLength : Layout → Option Nat
  | empty => some 0
  | text cs => some ((cs.map Char.utf8Size).foldl (· + ·) 0)
  | set _ ranges => ranges.getLast?.map fun r => Unicode.encodedSize r.2
  | look _ => some 0
  | seq a b => do pure ((← a.maxLength) + (← b.maxLength))
  | alt a b => do pure (max (← a.maxLength) (← b.maxLength))
  | iter s _ max _ => do pure ((← max) * (← s.maxLength))
  | group s => s.maxLength

/-- Does every text of this layout have a character? -/
def isNeverEmpty (s : Layout) : Bool :=
  s.minLength.any (0 < ·)

/-- Is a part of the layout captured? -/
def hasGroup : Layout → Bool
  | empty | text _ | set _ _ | look _ => false
  | seq a b => a.hasGroup || b.hasGroup
  | alt a b => a.hasGroup || b.hasGroup
  | iter s _ _ _ => s.hasGroup
  | group _ => true

/-- The parts of a sequence. -/
def parts : Layout → List Layout
  | empty => []
  | seq a b => a :: b.parts
  | s => [s]

/-- The alternatives of a choice. -/
def alternatives : Layout → List Layout
  | alt a b => a :: b.alternatives
  | s => [s]

/-- Make one text of texts that stand next to each other. -/
def joinTexts : List Layout → List Layout
  | [] => []
  | s :: rest =>
      match s, joinTexts rest with
      | text cs, text ds :: rest => text (cs ++ ds) :: rest
      | s, rest => s :: rest

/-- Parts one after the other. -/
def ofParts : List Layout → Layout
  | [] => empty
  | [s] => s
  | s :: rest => seq s (ofParts rest)

/-- Layouts one after the other. -/
def sequence (layouts : List Layout) : Layout :=
  ofParts (joinTexts (layouts.flatMap parts))

/-- The number of a text of one character. -/
def singleChar? : Layout → Option Nat
  | text [c] => some c.toNat
  | _ => none

/-- The ranges of a set. -/
def setRanges? : Layout → Option Unicode.Ranges
  | set _ ranges => some ranges
  | _ => none

/-- Alternatives, without regard to what they have in common. -/
def ofAlternatives : List Layout → Layout
  | [] => never
  | [s] => s
  | s :: rest => alt s (ofAlternatives rest)

/-- A choice between alternatives that have no start in common.  Single
characters, and sets, become one set. -/
def disjointChoice (layouts : List Layout) : Layout :=
  match layouts.flatMap alternatives with
  | [] => never
  | [s] => s
  | branches =>
      match branches.mapM singleChar?, branches.mapM setRanges? with
      | some chars, _ => ofRanges false (.ofList chars)
      | none, some ranges => ofRanges false ranges.flatten
      | none, none => ofAlternatives branches

/-- How many parts two sequences have in common at their start.  A group is
never the same as another one, as each has a number of its own. -/
def sharedStart : List Layout → List Layout → Nat
  | a :: as, b :: bs => if a = b ∧ !a.hasGroup then sharedStart as bs + 1 else 0
  | _, _ => 0

/-- How many parts all alternatives have in common at their start; none, if one
of them is no sequence. -/
def sharedStarts (branches : List Layout) : Nat :=
  if branches.all fun s => s.parts.length ≥ 2 then
    match branches with
    | first :: rest =>
        rest.foldl (fun n s => Nat.min n (sharedStart first.parts s.parts)) first.parts.length
    | [] => 0
  else
    0

/-- A choice between layouts.  What all alternatives have in common at their
start stands before the choice. -/
def choice (layouts : List Layout) : Layout :=
  let branches := layouts.flatMap alternatives
  match branches with
  | first :: _ :: _ =>
      let n := sharedStarts branches
      if n = 0 then
        disjointChoice branches
      else
        let rest := disjointChoice (branches.map fun s => sequence (s.parts.drop n))
        sequence (first.parts.take n ++ [rest])
  | _ => disjointChoice branches

/-- A repetition.  A part without width is repeated once at most, no repetition
is the empty layout, and one repetition is the part itself. -/
def repeated (s : Layout) (min : Nat) (max : Option Nat) (isLazy : Bool) : Layout :=
  let (min, max) :=
    if s.maxLength = some 0 then (Nat.min min 1, some (Nat.min (max.getD 1) 1)) else (min, max)
  if min = 0 ∧ max = some 0 then empty
  else if min = 1 ∧ max = some 1 then s
  else iter s min max isLazy

end Layout

end FormRules
