import FormRules.Unicode.LowerCase

/-!
# Lower case of texts

A text is brought to lower case character by character.  Only the capital sigma
looks at its place: at the end of a word it becomes the final form.
-/

namespace FormRules.Text

/-- The lower case of a character at any place.  A capital I with a dot becomes
the letter and the dot. -/
def lowerChar (c : Char) : List Char :=
  if c = '\u0130' then ['i', '\u0307'] else [Char.ofNat (Unicode.lowerCode c.toNat)]

/-- Is the first character that counts one with a case? -/
def meetsCased (cs : List Char) : Bool :=
  (cs.dropWhile Unicode.isCaseIgnorable).head?.any Unicode.isCased

/-- The lower case of a capital sigma between what stands before it, the last
character first, and what stands after it. -/
def lowerSigma (before after : List Char) : Char :=
  if meetsCased before && !meetsCased after then '\u03C2' else '\u03C3'

/-- The lower case of the rest of a text behind what stands before it, the last
character first. -/
def lowerAfter (before : List Char) : List Char → List Char
  | [] => []
  | c :: rest =>
      (if c = '\u03A3' then [lowerSigma before rest] else lowerChar c) ++
        lowerAfter (c :: before) rest

/-- The lower case of a text. -/
def lower (s : String) : String := String.ofList (lowerAfter [] s.toList)

end FormRules.Text
