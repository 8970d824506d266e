/-!
# Blank characters

The white-space characters of Unicode, and trimming a text on both sides.
Trimming works on the list of characters; `trimText` is the same on a string.
-/

namespace FormRules.Text

/-- A character is blank when Unicode gives it the property of white space. -/
def isBlank (c : Char) : Bool :=
  let n := c.toNat
  (9 ≤ n && n ≤ 13) || n == 0x20 || n == 0x85 || n == 0xA0 || n == 0x1680 ||
    (0x2000 ≤ n && n ≤ 0x200A) || n == 0x2028 || n == 0x2029 || n == 0x202F ||
    n == 0x205F || n == 0x3000

/-- Drop the blank characters at the front. -/
def trimLeft (cs : List Char) : List Char :=
  cs.dropWhile isBlank

/-- Drop the blank characters at the back. -/
def trimRight (cs : List Char) : List Char :=
  (cs.reverse.dropWhile isBlank).reverse

/-- Drop the blank characters on both sides. -/
def trim (cs : List Char) : List Char :=
  trimRight (trimLeft cs)

/-- Drop the blank characters on both sides of a string. -/
def trimText (s : String) : String :=
  String.ofList (trim s.toList)

/-- Cut a text at every occurrence of a separator.  There is one piece more
than there are separators, so the pieces of the empty text are one empty
piece. -/
def cut (separator : Char) : List Char → List (List Char)
  | [] => [[]]
  | c :: rest =>
      if c = separator then
        [] :: cut separator rest
      else
        match cut separator rest with
        | [] => [[c]]
        | piece :: pieces => (c :: piece) :: pieces

end FormRules.Text
