import FormRules.Json
import FormRules.Number.Literal
import FormRules.Number.Shortest
import FormRules.Text.Blank

/-!
# Field values

What a field of a form can hold: nothing, a truth value, a number or a text.
Lists and objects are never the value of a field.
-/

namespace FormRules

/-- The value of a field. -/
inductive Value where
  | null
  | bool (b : Bool)
  | number (x : Float)
  | text (s : String)
  deriving Inhabited

namespace Value

/-- Two values are the same when they are of one kind and agree; numbers
compare as numbers, so no value that is no number is the same as itself. -/
def same : Value → Value → Bool
  | null, null => true
  | bool a, bool b => a == b
  | number x, number y => x == y
  | text s, text t => s == t
  | _, _ => false

instance : BEq Value := ⟨same⟩

/-- A field without a value, and a field with the empty text, are empty. -/
def isEmpty : Value → Bool
  | null => true
  | text s => s.isEmpty
  | _ => false

/-- The text of a text value. -/
def text? : Value → Option String
  | text s => some s
  | _ => none

/-- The truth value of a truth value. -/
def bool? : Value → Option Bool
  | bool b => some b
  | _ => none

/-- The number of a value: a number itself, or a text that is a number literal
between blanks. -/
def number? : Value → Option Float
  | number x => some x
  | text s => (Number.readFloat (Text.trim s.toList)).toOption
  | _ => none

/-- The text that a value is shown as. -/
def render : Value → String
  | null => ""
  | bool b => if b then "true" else "false"
  | number x => Number.text x
  | text s => s

/-- The value of a JSON document; lists and objects have none. -/
def ofJson? : Json → Option Value
  | .null => some null
  | .bool b => some (bool b)
  | .number n _ => some (number n)
  | .string s => some (text s)
  | .array _ => none
  | .object _ => none

/-- The JSON document of a value. -/
def toJson : Value → Json
  | null => .null
  | bool b => .bool b
  | number x => .ofFloat x
  | text s => .string s

/-- Read a value by trying the four kinds in turn; the first that reads the
document gives the value. -/
def decode? (j : Json) : Option Value :=
  (asNull j).orElse fun _ => (asBool j).orElse fun _ => (asNumber j).orElse fun _ => asText j
where
  asNull : Json → Option Value
    | .null => some null
    | _ => none
  asBool : Json → Option Value
    | .bool b => some (bool b)
    | _ => none
  asNumber : Json → Option Value
    | .number (.natural n) _ => some (number n.toFloat)
    | .number (.negative n) _ => some (number (-n.toFloat))
    | .number (.decimal x) _ => some (number x)
    | _ => none
  asText : Json → Option Value
    | .string s => some (text s)
    | _ => none

end Value

/-- Look up the value of a field by name; nothing for a field that is unknown. -/
abbrev Lookup := String → Option Value

/-- The lookup of a validator that runs on its own. -/
def noFields : Lookup := fun _ => none

end FormRules
