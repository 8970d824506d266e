import FormRules.Pattern.Layout
import FormRules.Pattern.Machine.Sets
import FormRules.Pattern.Machine.Texts

/-!
# The machine for a pattern

`Machine.build` adds the states of a layout to a machine, and `Layout.isUsable`
says whether both machines for a layout are small enough.
-/

namespace FormRules

namespace Machine

/-- The texts of a choice between texts alone. -/
def texts? : Layout → Option (List (List Char))
  | .text cs => some [cs]
  | .alt (.text cs) rest => (texts? rest).map (cs :: ·)
  | _ => none

/-- What is added behind an alternative with so many alternatives before it.
Behind the second one this is a state to choose, with ways to the two, and a
state to go on to; behind each later one it is a way. -/
def closeBranch : Nat → Machine → Machine
  | 0, m => m
  | 1, m => m.add 2 8
  | _, m => m.add 0 4

/-- Add a repetition, given how to add what is repeated.  A state with two ways
chooses between one more round and the end. -/
def addRounds (round : Machine → Machine) (isNeverEmpty : Bool) (min : Nat) (max : Option Nat)
    (m : Machine) : Machine :=
  match min, max with
  | 0, some 1 => (round (m.add 1 8)).add 1 0
  | 0, none => if isNeverEmpty then round (m.add 1 8) else (round m).add 3 16
  | min, none => (copies round min m).add 1 8
  | min, some max =>
      if min = max then
        copies round min m
      else
        let m := if min = 0 then m.add 1 0 else copies round min m
        copies (fun m => round (m.add 1 8)) (max - min) (m.add 1 0)

/-- Add a layout to a machine, unless this is too large already.  `before` counts
the alternatives that stand before the layout in the choice that it belongs to. -/
def build (dir : Direction) (before : Nat) (s : Layout) (m : Machine) : Machine :=
  if sizeLimit < m.size then m else
  match s with
  | .alt a b =>
      match if before = 0 then texts? (.alt a b) else none with
      | some texts => addTexts dir texts m
      | none => build dir (before + 1) b (closeBranch before (build dir 0 a m))
  | .seq a b =>
      closeBranch before <|
        match dir with
        | .forward => build dir 0 b (build dir 0 a m)
        | .backward => build dir 0 a (build dir 0 b m)
  | .iter s min max _ => closeBranch before (addRounds (build dir 0 s) s.isNeverEmpty min max m)
  | .group s =>
      closeBranch before <|
        match dir with
        | .forward => (build dir 0 s (m.add 1 0)).add 1 0
        | .backward => build dir 0 s m
  | .set _ ranges => closeBranch before (addSet dir ranges m)
  | .text cs => closeBranch before (m.add (readBytes dir cs).length 0)
  | .look _ => closeBranch before (m.add 1 0)
  | .empty => closeBranch before (m.add 1 0)

/-- Does every match begin at the first place that the machine can read from? -/
def isAnchored (dir : Direction) : Layout → Bool
  | .look a => a == match dir with | .forward => .textStart | .backward => .textEnd
  | .seq a b =>
      match dir with
      | .forward => isAnchored dir a || (a.maxLength == some 0 && isAnchored dir b)
      | .backward => isAnchored dir b || (b.maxLength == some 0 && isAnchored dir a)
  | .alt a b => isAnchored dir a && isAnchored dir b
  | .iter s min _ _ => decide (0 < min) && isAnchored dir s
  | .group s => isAnchored dir s
  | .empty | .text _ | .set _ _ => false

/-- The machine for a layout, whose match as a whole is captured.  What comes
before it is one state, or three that pass over any bytes; behind it is the state
for the match. -/
def ofLayout (dir : Direction) (s : Layout) : Machine :=
  let start : Machine := if isAnchored dir s then ⟨1, 0⟩ else ⟨3, 16⟩
  (build dir 0 (.group s) start).add 1 0

end Machine

/-- Can the machines for this layout be used? -/
def Layout.isUsable (s : Layout) : Bool :=
  [Direction.forward, Direction.backward].all fun dir =>
    decide ((Machine.ofLayout dir s).size ≤ Machine.sizeLimit)

end FormRules
