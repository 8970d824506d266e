/-!
# Slices of texts

Places in a text are counted in bytes.  A slice exists only between places that
cut no character.
-/

namespace FormRules.Text

/-- The number of bytes of a text. -/
def byteLength (cs : List Char) : Nat :=
  (cs.map Char.utf8Size).foldl (· + ·) 0

/-- What follows a place. -/
def dropBytes? : Nat → List Char → Option (List Char)
  | 0, cs => some cs
  | _ + 1, [] => none
  | n + 1, c :: rest =>
      if c.utf8Size ≤ n + 1 then dropBytes? (n + 1 - c.utf8Size) rest else none

/-- What stands before a place. -/
def takeBytes? : Nat → List Char → Option (List Char)
  | 0, _ => some []
  | _ + 1, [] => none
  | n + 1, c :: rest =>
      if c.utf8Size ≤ n + 1 then (takeBytes? (n + 1 - c.utf8Size) rest).map (c :: ·) else none

/-- What stands between two places. -/
def slice? (first last : Nat) (cs : List Char) : Option (List Char) :=
  (dropBytes? first cs).bind (takeBytes? (last - first))

end FormRules.Text
