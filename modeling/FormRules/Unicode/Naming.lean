import FormRules.Unicode.Ranges
import FormRules.Unicode.Tables.Hidden
import FormRules.Unicode.Tables.Name

/-!
# Characters of names and of quoted texts

Names are made of letters and numbers, and a quoted text gives hidden characters
by number.  Both follow a later version of the standard than the properties by
which a pattern asks for characters.
-/

namespace FormRules.Unicode

/-- The letters of names. -/
def nameLetters : Ranges := .decode Tables.nameLetters

/-- The numbers of names. -/
def nameNumbers : Ranges := .decode Tables.nameNumbers

/-- The characters that leave no mark of their own, are ignored, or combine with
the character before them. -/
def hiddenRanges : Ranges := .decode Tables.hidden

/-- Is this character a letter of names? -/
def isNameLetter (c : Char) : Bool := nameLetters.mem c.toNat

/-- Is this character a letter or a number of names? -/
def isNameAlphanumeric (c : Char) : Bool :=
  isNameLetter c || nameNumbers.mem c.toNat

/-- Is this character hidden? -/
def isHidden (c : Char) : Bool := hiddenRanges.mem c.toNat

end FormRules.Unicode
