/-!
# JSON documents

The values of JSON, as far as forms read and write them.  A number of JSON is a
whole number that fits a machine word, or else a finite double; the members of an
object are in the order of their names.
-/

namespace FormRules

/-- How a number of JSON is held. -/
inductive Json.Numeral where
  /-- A whole number that is not negative. -/
  | natural (n : UInt64)
  /-- A negative whole number, by its distance from zero. -/
  | negative (n : UInt64)
  /-- A number with a point or an exponent, or one that fits no word, by the
  double nearest to it. -/
  | decimal (x : Float)

namespace Json.Numeral

/-- The distance from zero of the least number that fits a word with a sign. -/
def negativeLimit : UInt64 := 9223372036854775808

/-- Zero is no negative number, and doubles are finite. -/
def isValid : Numeral → Bool
  | natural _ => true
  | negative n => decide (0 < n) && decide (n ≤ negativeLimit)
  | decimal x => x.isFinite

/-- The double nearest to a number. -/
def toFloat : Numeral → Float
  | natural n => n.toFloat
  | negative n => -n.toFloat
  | decimal x => x

instance : Coe Numeral Float := ⟨toFloat⟩

/-- The whole part of a number, as a machine word. -/
def toUInt64 (n : Numeral) : UInt64 := n.toFloat.toUInt64

end Json.Numeral

/-- A JSON document. -/
inductive Json where
  | null
  | bool (b : Bool)
  | number (n : Json.Numeral) (valid : n.isValid = true)
  | string (s : String)
  | array (items : List Json)
  | object (members : List (String × Json))

namespace Json

/-- The JSON document of a whole number. -/
def natural (n : UInt64) : Json := .number (.natural n) rfl

/-- The JSON document of a number; what is no valid one becomes `null`. -/
def ofNumeral (n : Numeral) : Json :=
  if valid : n.isValid = true then .number n valid else .null

/-- The JSON number of a double.  JSON has no infinities and no value that is
no number; they become `null`. -/
def ofFloat (x : Float) : Json := ofNumeral (.decimal x)

/-- The member of an object with a given name; the last one counts. -/
def member? (members : List (String × Json)) (name : String) : Option Json :=
  (members.reverse.find? (·.1 == name)).map (·.2)

end Json

end FormRules
