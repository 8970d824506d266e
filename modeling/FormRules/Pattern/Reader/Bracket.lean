import FormRules.Pattern.Reader.Escape

/-!
# Bracketed sets in written patterns

A set in brackets lists characters, ranges and classes; it can be negated,
nested, and combined with other sets by intersection, difference and symmetric
difference, from left to right.
-/

namespace FormRules.Pattern.Reader

/-- A set together with the depth of its nesting. -/
structure SetTerm where
  set : CharSet
  depth : Nat
  /-- Is the set closed under the case of letters already, so far as the flags
  ask for it? -/
  folded : Bool

/-- The ways to combine two sets. -/
inductive SetOp where
  | intersection
  | difference
  | symmetricDifference
  deriving DecidableEq, Repr

/-- Close a set under the case of letters, if the flags ask for it. -/
def foldCase (f : Flags) (s : CharSet) : CharSet :=
  if f.ignoreCase then
    if f.unicode then .caseFold s else .asciiFold s
  else
    s

/-- One element of a set as a term. -/
def plainTerm (s : CharSet) : SetTerm := ⟨s, 0, false⟩

/-- The terms of a union, the last one first, as one set.  What is not closed
under the case of letters yet is closed all at once. -/
def unionSet (f : Flags) (terms : List SetTerm) : CharSet :=
  let (folded, plain) := terms.reverse.partition (·.folded)
  let folded := folded.map (·.set)
  match plain.map (·.set) with
  | [] => .unionAll folded
  | plain => .unionAll (foldCase f (.unionAll plain) :: folded)

/-- The terms of a union, the last one first, as one term. -/
def unionTerm (f : Flags) (terms : List SetTerm) : SetTerm :=
  let depth :=
    match terms with
    | [] => 0
    | [term] => term.depth
    | terms => (terms.map (·.depth)).foldl max 0 + 1
  ⟨unionSet f terms, depth, true⟩

/-- Combine what stands before an operator with what stands behind it.  Both
are closed under the case of letters, and so is the result. -/
def combine (left : Option (SetOp × SetTerm)) (right : SetTerm) : SetTerm :=
  match left with
  | none => right
  | some (op, left) =>
      let set :=
        match op with
        | .intersection => CharSet.inter left.set right.set
        | .difference => CharSet.diff left.set right.set
        | .symmetricDifference => CharSet.symmDiff left.set right.set
      ⟨set, max left.depth right.depth + 1, true⟩

/-- A set in brackets from its contents, which are closed under the case of
letters.  Among ASCII alone no set has a complement. -/
def closeSet (f : Flags) (negated : Bool) (s : CharSet) : Except PatternFault CharSet :=
  if negated then
    if f.unicode then .ok (.compl s) else malformed
  else
    .ok s

/-- The named classes of ASCII characters. -/
def asciiClass? (name : String) : Option CharSet :=
  match name with
  | "alnum" => some .asciiAlphanumeric
  | "alpha" => some .asciiLetter
  | "ascii" => some (.range 0 0x7F)
  | "blank" => some (.union (.single '\t') (.single ' '))
  | "cntrl" => some (.union (.range 0 0x1F) (.single '\x7F'))
  | "digit" => some .asciiDigit
  | "graph" => some (.range 0x21 0x7E)
  | "lower" => some (.range 0x61 0x7A)
  | "print" => some (.range 0x20 0x7E)
  | "punct" =>
      some (.unionAll [.range 0x21 0x2F, .range 0x3A 0x40, .range 0x5B 0x60, .range 0x7B 0x7E])
  | "space" => some .asciiSpace
  | "upper" => some (.range 0x41 0x5A)
  | "word" => some .asciiWord
  | "xdigit" => some (.unionAll [.asciiDigit, .range 0x41 0x46, .range 0x61 0x66])
  | _ => none

/-- A named class of ASCII characters after its opening bracket: a name between
colons, with an optional circumflex for the complement.  The result is nothing
if what stands there is no such class. -/
def asciiClassAt? (cs : List Char) : Option (Bool × CharSet × List Char) :=
  match cs with
  | ':' :: rest =>
      let negated := rest.head? == some '^'
      let rest := if negated then rest.drop 1 else rest
      let name := rest.takeWhile (· != ':')
      match rest.dropWhile (· != ':') with
      | ':' :: ']' :: rest =>
          (asciiClass? (String.ofList name)).map fun set => (negated, set, rest)
      | _ => none
  | _ => none

/-- One element of a set: a character, which can begin or end a range, or a
class. -/
inductive Element where
  | char (c : Char)
  | set (s : CharSet)

/-- Among ASCII alone an element of a set is an ASCII character. -/
def readElement (f : Flags) (cs : List Char) : Except PatternFault (Read Element) :=
  match cs with
  | [] => malformed
  | '\\' :: rest => do
      match ← readEscape f rest with
      | (.char c _, rest) => if f.unicode || c.toNat < 0x80 then .ok (.char c, rest) else malformed
      | (.set s, rest) => .ok (.set s, rest)
      | (.anchor _, _) => malformed
  | c :: rest => if f.unicode || c.toNat < 0x80 then .ok (.char c, rest) else malformed

/-- The next character that counts, without reading it.  In extended mode the
first number sign is passed over too. -/
def peek (f : Flags) (cs : List Char) : Option Char :=
  if f.extended then
    let counted := cs.dropWhile Text.isBlank
    let counted :=
      match counted with
      | '#' :: rest => rest.dropWhile Text.isBlank
      | counted => counted
    match counted with
    | c :: _ => some c
    | [] => cs.head?
  else
    cs.head?

/-- One element of a set, or a range between two characters in order.  A minus
sign before the closing bracket or before another minus sign makes no range. -/
def readRange (f : Flags) (cs : List Char) : Except PatternFault (Read CharSet) := do
  let (first, rest) ← readElement f cs
  let alone : CharSet :=
    match first with
    | .char c => .single c
    | .set s => s
  match skip f rest with
  | [] => malformed
  | '-' :: more =>
      if peek f more = some ']' ∨ peek f more = some '-' then
        .ok (alone, '-' :: more)
      else do
        let (last, rest) ← readElement f (skip f more)
        match first, last with
        | .char a, .char b =>
            if a.toNat ≤ b.toNat then .ok (.range a.toNat b.toNat, rest) else malformed
        | _, _ => malformed
  | rest => .ok (alone, rest)

/-- The start of a set after its opening bracket: a circumflex for the
complement, then minus signs that stand for themselves, or else a closing
bracket that does. -/
def readSetStart (f : Flags) (cs : List Char) :
    Except PatternFault (Read (Bool × List SetTerm)) :=
  let cs := skip f cs
  let negated := cs.head? == some '^'
  let cs := if negated then skip f (cs.drop 1) else cs
  let (terms, cs) := dashes cs.length [] cs
  match terms, cs with
  | [], ']' :: rest =>
      match skip f rest with
      | [] => malformed
      | rest => .ok ((negated, [plainTerm (.single ']')]), rest)
  | _, [] => malformed
  | _, cs => .ok ((negated, terms), cs)
where
  dashes : Nat → List SetTerm → List Char → List SetTerm × List Char
    | 0, terms, cs => (terms, cs)
    | fuel + 1, terms, cs =>
        match cs with
        | '-' :: rest => dashes fuel (plainTerm (.single '-') :: terms) (skip f rest)
        | cs => (terms, cs)

/-- The contents of a set up to its closing bracket: `left` is what stands
before the last operator, `terms` what was read since, the last one first. -/
def readSetBody (f : Flags) :
    Nat → Option (SetOp × SetTerm) → List SetTerm → List Char → Except PatternFault (Read SetTerm)
  | 0, _, _, _ => malformed
  | fuel + 1, left, terms, cs =>
      match skip f cs with
      | [] => malformed
      | ']' :: rest => .ok (combine left (unionTerm f terms), rest)
      | '&' :: '&' :: rest =>
          readSetBody f fuel (some (.intersection, combine left (unionTerm f terms))) [] rest
      | '-' :: '-' :: rest =>
          readSetBody f fuel (some (.difference, combine left (unionTerm f terms))) [] rest
      | '~' :: '~' :: rest =>
          readSetBody f fuel (some (.symmetricDifference, combine left (unionTerm f terms))) []
            rest
      | '[' :: rest =>
          match asciiClassAt? rest with
          | some (negated, set, rest) => do
              let set ← closeSet f negated (foldCase f set)
              readSetBody f fuel left (⟨set, 0, true⟩ :: terms) rest
          | none => do
              let ((negated, start), rest) ← readSetStart f rest
              let (term, rest) ← readSetBody f fuel none start rest
              let set ← closeSet f negated term.set
              readSetBody f fuel left (⟨set, term.depth + 1, true⟩ :: terms) rest
      | cs => do
          let (set, rest) ← readRange f cs
          readSetBody f fuel left (plainTerm set :: terms) rest

theorem readSetBody_zero (f : Flags) (left : Option (SetOp × SetTerm)) (terms : List SetTerm)
    (cs : List Char) : readSetBody f 0 left terms cs = malformed := by
  rw [readSetBody]

/-- A set in brackets, after its opening bracket. -/
def readSet (f : Flags) (cs : List Char) : Except PatternFault (Read SetTerm) := do
  let ((negated, start), rest) ← readSetStart f cs
  let (term, rest) ← readSetBody f (rest.length + 1) none start rest
  let set ← closeSet f negated term.set
  .ok (⟨set, term.depth + 1, true⟩, rest)

end FormRules.Pattern.Reader
