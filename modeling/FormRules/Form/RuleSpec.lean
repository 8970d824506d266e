import FormRules.Json

/-!
# Rule specifications

A specification declares a field and, if it has any, the rules of the field as
a rule string.
-/

namespace FormRules

/-- The declaration of a field. -/
structure RuleSpec where
  field : String
  rules : Option String
  deriving DecidableEq, Repr

namespace RuleSpec

/-- A field without rules. -/
def unchecked (field : String) : RuleSpec := ⟨field, none⟩

/-- A field with a rule string. -/
def new (field rules : String) : RuleSpec := ⟨field, some rules⟩

/-- The field of a specification in JSON. -/
def fieldOfJson? : Json → Option String
  | .string field => some field
  | _ => none

/-- The rules of a specification in JSON; `null` means none. -/
def rulesOfJson? : Json → Option (Option String)
  | .null => some none
  | .string rules => some (some rules)
  | _ => none

/-- Read a specification from JSON: an object with a `field` and maybe `rules`,
whatever else it holds, or a list of the field and maybe the rules. -/
def ofJson? : Json → Option RuleSpec
  | .object members => do
      let field ← (Json.member? members "field").bind fieldOfJson?
      let rules ←
        match Json.member? members "rules" with
        | some rules => rulesOfJson? rules
        | none => some none
      some ⟨field, rules⟩
  | .array [field] => (fieldOfJson? field).map unchecked
  | .array [field, rules] => do
      let field ← fieldOfJson? field
      let rules ← rulesOfJson? rules
      some ⟨field, rules⟩
  | _ => none

/-- Write a specification as a JSON object. -/
def toJson (spec : RuleSpec) : Json :=
  .object [("field", .string spec.field), ("rules", spec.rules.elim .null .string)]

end RuleSpec

end FormRules
