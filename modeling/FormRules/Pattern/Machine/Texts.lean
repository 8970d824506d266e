import FormRules.Pattern.Machine

/-!
# Choices between texts in a machine

The texts of a choice form a tree, in which equal starts stand once.
`Machine.addTexts` adds the states of the tree.
-/

namespace FormRules.Machine

/-- Split a list of words at its empty words, and count these.  Of empty words
before the first other one all but one are ignored. -/
def cutAtEmpty (count : Nat) (any : Bool) (part : List (List UInt8)) :
    List (List UInt8) → Nat × List (List (List UInt8))
  | [] => (count, [part.reverse])
  | [] :: rest =>
      if !any && 0 < count then
        cutAtEmpty count any part rest
      else
        let (count, parts) := cutAtEmpty (count + 1) any [] rest
        (count, part.reverse :: parts)
  | word :: rest => cutAtEmpty count true (word :: part) rest

/-- What follows a byte in the words that begin with it. -/
def tailsAfter (byte : UInt8) (words : List (List UInt8)) : List (List UInt8) :=
  words.filterMap fun
    | b :: rest => if b = byte then some rest else none
    | [] => none

/-- Add the tree of some words of so many bytes at most.  Each of its nodes has
a state that chooses between the parts of the words up to the next place where a
word ends, and for each part a state that reads a byte. -/
def addTree : Nat → List (List UInt8) → Machine → Machine
  | 0, _, m => m
  | length + 1, words, m =>
      let (ends, parts) := cutAtEmpty 0 false [] words
      let parts := parts.filter (· ≠ [])
      let m := parts.foldl
        (fun m part =>
          let bytes := (part.filterMap List.head?).eraseDups
          let m := bytes.foldl
            (fun m byte =>
              let tails := tailsAfter byte part
              if tails.all List.isEmpty then m else addTree length tails m)
            m
          m.add 1 (if bytes.length = 1 then 0 else 8 * bytes.length))
        m
      m.add 1 (4 * (ends + parts.length))

/-- The bytes of a text in the order in which they are read. -/
def readBytes (dir : Direction) (cs : List Char) : List UInt8 :=
  let bytes := cs.flatMap String.utf8EncodeChar
  match dir with
  | .forward => bytes
  | .backward => bytes.reverse

/-- Add a choice between texts, and a state to go on to. -/
def addTexts (dir : Direction) (texts : List (List Char)) (m : Machine) : Machine :=
  let words := texts.map (readBytes dir)
  addTree ((words.map List.length).foldl max 0) words (m.add 1 0)

end FormRules.Machine
