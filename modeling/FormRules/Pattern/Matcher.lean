import FormRules.Pattern.Basic

/-!
# Matching

A pattern is run over a text by sets of places.  Such a set is fed to a pattern
part by part, and what comes out are the places that the pattern leads to from
them.  A repetition remembers which places have been fed to what it repeats, so
that no place is fed to it twice, however the repetitions are nested.
-/

namespace FormRules

/-- A place between two characters of a text: how many characters are before it,
the last one of them, and the rest of the text. -/
structure Place where
  index : Nat
  before : Option Char
  rest : List Char

namespace Place

/-- The place behind the next character, if this one is in the set. -/
def next? (s : CharSet) (x : Place) : Option Place :=
  match x.rest with
  | c :: rest => if s.mem c then some ⟨x.index + 1, some c, rest⟩ else none
  | [] => none

/-- Does a condition hold at this place? -/
def satisfies (a : Anchor) (x : Place) : Bool :=
  a.holds x.before x.rest.head?

/-- The places behind this one, and this one; `found` are others. -/
def onward (found : List Place) (index : Nat) (before : Option Char) :
    List Char → List Place
  | [] => ⟨index, before, []⟩ :: found
  | c :: rest => onward (⟨index, before, c :: rest⟩ :: found) (index + 1) (some c) rest

/-- All places of a text. -/
def all (t : List Char) : List Place := onward [] 0 none t

/-- Those of some places whose number is not among the bits of `seen`, each of
them once, and the bits with theirs added. -/
def unseen (seen : Nat) (xs : List Place) : List Place × Nat :=
  xs.foldl
    (fun (new, seen) x =>
      if seen.testBit x.index then (new, seen) else (x :: new, seen ||| 1 <<< x.index))
    ([], seen)

/-- The places of two lists, each of them once. -/
def union (xs ys : List Place) : List Place :=
  match xs, ys with
  | xs, [] => xs
  | [], ys => ys
  | xs, ys => (unseen 0 (xs ++ ys)).1

end Place

/-- What the parts of a pattern remember of the places that have been fed to
them. -/
inductive Memory where
  /-- Nothing. -/
  | fresh
  /-- The memories of two parts. -/
  | both (left right : Memory)
  /-- The numbers of the places, as bits, that have been fed to what is
  repeated, and the memory of that. -/
  | loop (seen : Nat) (inner : Memory)

namespace Memory

/-- The memory of the first part. -/
def left : Memory → Memory
  | both left _ => left
  | _ => fresh

/-- The memory of the second part. -/
def right : Memory → Memory
  | both _ right => right
  | _ => fresh

/-- The places that have been fed to what is repeated. -/
def seen : Memory → Nat
  | loop seen _ => seen
  | _ => 0

/-- The memory of what is repeated. -/
def inner : Memory → Memory
  | loop _ inner => inner
  | _ => fresh

/-- The memories of two parts.  Where there is nothing to remember, nothing is. -/
def join : Memory → Memory → Memory
  | fresh, fresh => fresh
  | left, right => both left right

end Memory

/-- Feed places to a part with some memory: which places it leads to, and what it
remembers now. -/
abbrev Feed := Memory → List Place → List Place × Memory

namespace Feed

/-- The places after exactly `n` rounds, each of which has a memory of its own. -/
def times (f : Feed) : Nat → Feed
  | 0, m, xs => (xs, m)
  | n + 1, m, xs =>
      if xs.isEmpty then
        ([], m)
      else
        let (ys, left) := f m.left xs
        let (zs, right) := times f n m.right ys
        (zs, left.join right)

/-- The places after at most `n` rounds, each of which has a memory of its own.
A place that fewer rounds lead to, those in `found`, is not fed to a later one. -/
def upTo (f : Feed) : Nat → Nat → Feed
  | 0, _, m, xs => (xs, m)
  | n + 1, found, m, xs =>
      if xs.isEmpty then
        ([], m)
      else
        let (ys, left) := f m.left xs
        let (new, found) := Place.unseen found ys
        let (zs, right) := upTo f n found m.right new
        (xs ++ zs, left.join right)

/-- The places after one round or more, all of which have the same memory; `out`
are the ones so far, and `found` has their numbers as bits. -/
def repeated (f : Feed) : Nat → List Place → Nat → Feed
  | 0, out, _, m, _ => (out, m)
  | fuel + 1, out, found, m, xs =>
      let (new, seen) := Place.unseen m.seen xs
      if new.isEmpty then
        (out, m)
      else
        let (ys, inner) := f m.inner new
        let (fresh, found) := Place.unseen found ys
        repeated f fuel (fresh ++ out) found (.loop seen inner) ys

end Feed

namespace Pattern

/-- Does the pattern match no text but the empty one? -/
def isEmptyOnly : Pattern → Bool
  | empty | look _ => true
  | one _ => false
  | seq p q => p.isEmptyOnly && q.isEmptyOnly
  | alt p q => p.isEmptyOnly && q.isEmptyOnly
  | iter p _ max => p.isEmptyOnly || max == some 0

/-- Does the pattern match the empty text at every place? -/
def matchesEmpty : Pattern → Bool
  | empty => true
  | one _ | look _ => false
  | seq p q => p.matchesEmpty && q.matchesEmpty
  | alt p q => p.matchesEmpty || q.matchesEmpty
  | iter p min max => (min == 0 || p.matchesEmpty) && max.all (min ≤ ·)

/-- How many rounds of a pattern there must be, and how many more there can be,
for a repetition.  If the pattern matches the empty text only, one round is as
good as many; if it matches the empty text everywhere, none has to be made. -/
def roundsNeeded (p : Pattern) (min : Nat) (max : Option Nat) : Nat × Option Nat :=
  if p.isEmptyOnly then (Nat.min min 1, some 0)
  else if p.matchesEmpty then (0, max)
  else (min, max.map (· - min))

/-- Feed places of a text to a pattern; `limit` is the number of places that the
text has. -/
def feed (limit : Nat) : Pattern → Feed
  | empty, m, xs => (xs, m)
  | one s, m, xs => (xs.filterMap (Place.next? s), m)
  | look a, m, xs => (xs.filter (Place.satisfies a), m)
  | seq p q, m, xs =>
      let (ys, left) := p.feed limit m.left xs
      if ys.isEmpty then
        ([], left.join m.right)
      else
        let (zs, right) := q.feed limit m.right ys
        (zs, left.join right)
  | alt p q, m, xs =>
      let (ys, left) := p.feed limit m.left xs
      let (zs, right) := q.feed limit m.right xs
      (Place.union ys zs, left.join right)
  | iter p min max, m, xs =>
      if max.any (· < min) then
        ([], m)
      else
        match p.roundsNeeded min max with
        | (0, none) =>
            let (ys, m) := Feed.repeated (p.feed limit) limit [] 0 m xs
            (Place.union xs ys, m)
        | (n + 1, none) =>
            let (ys, left) := Feed.times (p.feed limit) n m.left xs
            let (zs, right) := Feed.repeated (p.feed limit) limit [] 0 m.right ys
            (zs, left.join right)
        | (n, some more) =>
            let (ys, left) := Feed.times (p.feed limit) n m.left xs
            let (ys, found) := Place.unseen 0 ys
            let (zs, right) := Feed.upTo (p.feed limit) more found m.right ys
            (zs, left.join right)

/-- Does the pattern match some part of the text? -/
def occurs (p : Pattern) (t : List Char) : Bool :=
  !(p.feed (t.length + 1) .fresh (Place.all t)).1.isEmpty

end Pattern

end FormRules
