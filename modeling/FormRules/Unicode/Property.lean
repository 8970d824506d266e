import FormRules.Unicode.Ranges
import FormRules.Unicode.Tables.Age
import FormRules.Unicode.Tables.Binary
import FormRules.Unicode.Tables.Category
import FormRules.Unicode.Tables.Script
import FormRules.Unicode.Tables.ScriptExtension
import FormRules.Unicode.Tables.Segment
import FormRules.Unicode.Tables.Word

/-!
# Character properties by name

The properties are those of version 16.0 of the standard.

`named?` finds the characters of a property from a loosely written name, as in
`Lu`, `Greek` or `white space`; `valued?` finds them from the name of a property
and the name of one of its values, as in `Script` and `Latin`.
-/

namespace FormRules.Unicode

/-- The form of a name that counts: lower case, without blanks, hyphens, low
lines and characters outside of ASCII, and without a leading `is`.  The name
`isc` is a name of its own. -/
def looseName (name : List Char) : String :=
  let isPrefixed := (name.take 2).map Char.toLower == ['i', 's']
  let body := if isPrefixed then name.drop 2 else name
  let loose := (body.filter fun c =>
    decide (c.toNat < 0x80) && c != ' ' && c != '_' && c != '-').map Char.toLower
  String.ofList (if isPrefixed && loose == ['c'] then ['i', 's', 'c'] else loose)

/-- The general categories that are unions of others, by the first letter or
the letters of their parts. -/
def categoryGroups : List (List String × List String) := [
  (["c", "other"], ["cc", "cf", "cn", "co"]),
  (["l", "letter"], ["ll", "lm", "lo", "lt", "lu"]),
  (["lc", "casedletter"], ["ll", "lt", "lu"]),
  (["m", "mark", "combiningmark"], ["mc", "me", "mn"]),
  (["n", "number"], ["nd", "nl", "no"]),
  (["p", "punctuation", "punct"], ["pc", "pd", "pe", "pf", "pi", "po", "ps"]),
  (["s", "symbol"], ["sc", "sk", "sm", "so"]),
  (["z", "separator"], ["zl", "zp", "zs"]),
  (["assigned"], ["cc", "cf", "co", "ll", "lm", "lo", "lt", "lu", "mc", "me", "mn", "nd", "nl",
    "no", "pc", "pd", "pe", "pf", "pi", "po", "ps", "sc", "sk", "sm", "so", "zl", "zp", "zs"])]

/-- The characters of one general category. -/
def singleCategory? (name : String) : Option Ranges :=
  Ranges.named? Tables.categories name

/-- The characters of a general category, a group of them, or one of the sets
`any` and `ascii`. -/
def category? (name : String) : Option Ranges :=
  if name = "any" then
    some [(0, 0x10FFFF)]
  else if name = "ascii" then
    some [(0, 0x7F)]
  else
    match categoryGroups.find? (·.1.contains name) with
    | some group => some (group.2.filterMap singleCategory?).flatten
    | none => singleCategory? name

/-- The characters of a script. -/
def script? (name : String) : Option Ranges :=
  Ranges.named? Tables.scripts name

/-- The characters of all versions up to a given one. -/
def age? (name : String) : Option Ranges :=
  if Tables.ages.any (·.1.contains name) then
    let upTo := Tables.ages.takeWhile fun entry => !entry.1.contains name
    let own := (Ranges.named? Tables.ages name).getD []
    some (upTo.flatMap (fun entry => Ranges.decode entry.2) ++ own)
  else
    none

/-- The characters of a property given by one name: a binary property, else a
general category, else a script.  Three short names belong to categories
although properties bear them too. -/
def named? (name : List Char) : Option Ranges :=
  let name := looseName name
  let binary :=
    if name = "cf" ∨ name = "sc" ∨ name = "lc" then none
    else Ranges.named? Tables.binaryProperties name
  (binary.orElse fun _ => category? name).orElse fun _ => script? name

/-- The characters that have a given value of a given property. -/
def valued? (property value : List Char) : Option Ranges :=
  let property := looseName property
  let value := looseName value
  if property = "gc" ∨ property = "generalcategory" then
    category? value
  else if property = "sc" ∨ property = "script" then
    script? value
  else if property = "scx" ∨ property = "scriptextensions" then
    Ranges.named? Tables.scriptExtensions value
  else if property = "age" then
    age? value
  else if property = "gcb" ∨ property = "graphemeclusterbreak" then
    Ranges.named? Tables.graphemeBreaks value
  else if property = "wb" ∨ property = "wordbreak" then
    Ranges.named? Tables.wordBreaks value
  else if property = "sb" ∨ property = "sentencebreak" then
    Ranges.named? Tables.sentenceBreaks value
  else
    none

/-- The word characters. -/
def wordRanges : Ranges := .decode Tables.word

/-- The decimal digits. -/
def digitRanges : Ranges := (singleCategory? "nd").getD []

/-- The white-space characters. -/
def spaceRanges : Ranges := (Ranges.named? Tables.binaryProperties "whitespace").getD []

end FormRules.Unicode
