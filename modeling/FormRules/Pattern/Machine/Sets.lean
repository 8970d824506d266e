import FormRules.Pattern.Machine
import FormRules.Unicode.Encoding

/-!
# Sets of characters in a machine

A set takes states for the bytes of its characters.  `Machine.addSet` adds them;
states that do the same are shared as far as they are still known.
-/

namespace FormRules.Machine

/-- States by what they do, in a table with a fixed number of slots.  What takes
a slot drives out what stood there. -/
structure Known where
  slots : Array (Option (List Nat × Nat))

namespace Known

/-- No state is known. -/
def none (slots : Nat) : Known := ⟨.replicate slots Option.none⟩

/-- The slot of a key: its numbers are mixed one after the other into a number
of sixty-four bits. -/
def slotOf (slots : Nat) (key : List Nat) : Nat :=
  let mixed : UInt64 :=
    key.foldl (fun h n => (h ^^^ n.toUInt64) * 1099511628211) 14695981039346656037
  mixed.toNat % slots

/-- The state with a key, if it is known. -/
def find? (k : Known) (key : List Nat) : Option Nat :=
  match k.slots[slotOf k.slots.size key]? with
  | some (some (found, state)) => if found = key then some state else Option.none
  | _ => Option.none

/-- Remember a state. -/
def insert (k : Known) (key : List Nat) (state : Nat) : Known :=
  let slot := slotOf k.slots.size key
  ⟨k.slots.setIfInBounds slot (some (key, state))⟩

end Known

/-- A machine that is built together with what is known about its states. -/
abbrev Building := Machine × Known

/-- The state with a key, which is added unless it is known. -/
def stateFor (key : List Nat) (wayBytes : Nat) (b : Building) : Nat × Building :=
  match b.2.find? key with
  | some state => (state, b)
  | none => (b.1.states, b.1.add 1 wayBytes, b.2.insert key b.1.states)

/-- Neighbouring blocks by the range of their first byte, with the rest of each
block. -/
def byFirst : List Unicode.Block → List ((Nat × Nat) × List Unicode.Block)
  | [] => []
  | [] :: rest => byFirst rest
  | (r :: more) :: rest =>
      match byFirst rest with
      | (next, tails) :: groups =>
          if r = next then (r, more :: tails) :: groups
          else (r, [more]) :: (next, tails) :: groups
      | [] => [(r, [more])]

/-- The state that reads one of some blocks, of so many bytes at most, and goes
on to the target.  It comes after the states that read the rest of a block. -/
def blockState (target : Nat) : Nat → List Unicode.Block → Building → Nat × Building
  | 0, _, b => (target, b)
  | length + 1, blocks, b =>
      match byFirst blocks with
      | [] => (target, b)
      | groups =>
          let (key, b) := groups.foldl
            (fun (key, b) (r, tails) =>
              let (next, b) := blockState target length tails b
              (next :: r.2 :: r.1 :: key, b))
            ([], b)
          stateFor key.reverse (8 * groups.length) b

/-- The chain of states that reads the bytes of a block from the last one to the
first one, from its last state on. -/
def blockChain (last : Nat) (block : Unicode.Block) (b : Building) : Building :=
  (block.foldl (fun (next, b) r => stateFor [next, r.1, r.2] 0 b) (last, b)).2

/-- A set of ASCII characters takes a state with a way for each range and a
state to go on to.  Another set takes states for the bytes of its blocks.
Forward, equal rests of blocks share their states; backward, so do equal starts,
and a state chooses between the blocks. -/
def addSet (dir : Direction) (ranges : Unicode.Ranges) (m : Machine) : Machine :=
  if ranges.all fun r => decide (r.2 < 0x80) then
    m.add 2 (8 * ranges.length)
  else
    match dir with
    | .forward => (blockState m.states 4 ranges.blocks (m.add 1 0, .none 10000)).2.1
    | .backward =>
        (ranges.blocks.foldl
          (fun b block =>
            let (m, known) := blockChain (m.states + 1) block b
            (m.add 0 4, known))
          (m.add 2 0, .none 1000)).1

end FormRules.Machine
