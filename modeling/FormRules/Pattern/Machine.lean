/-!
# Machines

A pattern is run by two machines over bytes, which read a text forward and
backward.  Of a machine only its size counts here: the number of its states, and
the memory for the ways out of them.
-/

namespace FormRules

/-- The ways to read a text. -/
inductive Direction where
  | forward
  | backward
  deriving DecidableEq, Repr

/-- What a machine has so far: its states, which are numbered from zero, and the
bytes for those ways out of a state that take memory of their own. -/
structure Machine where
  states : Nat
  wayBytes : Nat

namespace Machine

/-- The size of a machine in bytes. -/
def size (m : Machine) : Nat := 32 * m.states + m.wayBytes

/-- The largest size, in bytes, of a usable machine. -/
def sizeLimit : Nat := 10485760

/-- Add states and bytes for their ways. -/
def add (m : Machine) (states wayBytes : Nat) : Machine :=
  ⟨m.states + states, m.wayBytes + wayBytes⟩

/-- Add the same thing a number of times, until the machine is too large. -/
def copies (f : Machine → Machine) : Nat → Machine → Machine
  | 0, m => m
  | n + 1, m => if sizeLimit < m.size then m else copies f n (f m)

end Machine

end FormRules
