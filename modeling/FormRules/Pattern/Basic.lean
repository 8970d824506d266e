import FormRules.Pattern.CharSet
import FormRules.Unicode.Property

/-!
# Patterns

A pattern describes texts: characters out of sets, one after the other, with
choice, repetition and conditions on the place between two characters.
`Pattern.Spans t p i j` says that `p` matches the part of `t` from position `i`
to position `j`.
-/

namespace FormRules

/-- Which places next to a word character an anchor asks for. -/
inductive WordEdge where
  | boundary
  | noBoundary
  | start
  | stop
  | startHalf
  | stopHalf
  deriving DecidableEq, Repr

/-- A condition on the place between two characters. -/
inductive Anchor where
  | textStart
  | textEnd
  /-- After a line feed, or at the start. -/
  | lineStart
  /-- Before a line feed, or at the end. -/
  | lineEnd
  /-- The same where a carriage return, a line feed, or the two together end a
  line. -/
  | crlfLineStart
  | crlfLineEnd
  /-- At an edge of a word, with the ASCII or all word characters. -/
  | word (edge : WordEdge) (ascii : Bool)
  deriving DecidableEq, Repr

namespace Anchor

/-- Is this a word character? -/
def isWord (ascii : Bool) (c : Option Char) : Bool :=
  match c with
  | none => false
  | some c => if ascii then CharSet.asciiWord.mem c else Unicode.wordRanges.mem c.toNat

/-- Does the condition hold between two characters?  At an end of the text
there is no character on that side. -/
def holds (a : Anchor) (before after : Option Char) : Bool :=
  match a with
  | textStart => before.isNone
  | textEnd => after.isNone
  | lineStart => before.isNone || before == some '\n'
  | lineEnd => after.isNone || after == some '\n'
  | crlfLineStart =>
      before.isNone || before == some '\n' || (before == some '\r' && after != some '\n')
  | crlfLineEnd =>
      after.isNone || after == some '\r' || (after == some '\n' && before != some '\r')
  | word edge ascii =>
      let left := isWord ascii before
      let right := isWord ascii after
      match edge with
      | .boundary => left != right
      | .noBoundary => left == right
      | .start => !left && right
      | .stop => left && !right
      | .startHalf => !left
      | .stopHalf => !right

end Anchor

/-- A pattern. -/
inductive Pattern where
  /-- The empty text. -/
  | empty
  /-- One character out of a set. -/
  | one (s : CharSet)
  /-- The empty text at a place where a condition holds. -/
  | look (a : Anchor)
  | seq (p q : Pattern)
  | alt (p q : Pattern)
  /-- At least `min` and, if there is a bound, at most `max` repetitions. -/
  | iter (p : Pattern) (min : Nat) (max : Option Nat)

namespace Pattern

/-- The character before a position of a text. -/
def before (t : List Char) (i : Nat) : Option Char :=
  if i = 0 then none else t[i - 1]?

/-- `n` steps of a relation. -/
def Steps (r : Nat → Nat → Prop) : Nat → Nat → Nat → Prop
  | 0, i, j => i = j
  | n + 1, i, j => ∃ k, r i k ∧ Steps r n k j

/-- The pattern matches the part of the text between two positions. -/
def Spans (t : List Char) : Pattern → Nat → Nat → Prop
  | empty, i, j => i = j
  | one s, i, j => j = i + 1 ∧ ∃ c, t[i]? = some c ∧ s.mem c = true
  | look a, i, j => i = j ∧ a.holds (before t i) t[i]? = true
  | seq p q, i, j => ∃ k, p.Spans t i k ∧ q.Spans t k j
  | alt p q, i, j => p.Spans t i j ∨ q.Spans t i j
  | iter p min max, i, j =>
      ∃ n, min ≤ n ∧ (∀ m, max = some m → n ≤ m) ∧ Steps (p.Spans t) n i j

/-- The pattern matches some part of the text. -/
def Occurs (p : Pattern) (t : List Char) : Prop :=
  ∃ i j, i ≤ t.length ∧ p.Spans t i j

/-- Patterns one after the other. -/
def seqAll : List Pattern → Pattern
  | [] => empty
  | [p] => p
  | p :: ps => seq p (seqAll ps)

/-- A choice between patterns; without any, nothing matches. -/
def altAll : List Pattern → Pattern
  | [] => one .none
  | [p] => p
  | p :: ps => alt p (altAll ps)

/-- Any number of repetitions. -/
def many (p : Pattern) : Pattern := iter p 0 none

/-- One repetition or more. -/
def many1 (p : Pattern) : Pattern := iter p 1 none

/-- One repetition at most. -/
def optional (p : Pattern) : Pattern := iter p 0 (some 1)

/-- Does the pattern depend on the edges of words among all characters? -/
def usesWordEdges : Pattern → Bool
  | look (.word _ ascii) => !ascii
  | empty | one _ | look _ => false
  | seq p q => p.usesWordEdges || q.usesWordEdges
  | alt p q => p.usesWordEdges || q.usesWordEdges
  | iter p _ max => p.usesWordEdges && max != some 0

end Pattern

end FormRules
