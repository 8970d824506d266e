import FormRules.Failure
import FormRules.Value

/-!
# Validators

A validator is a rule that has been read: a name and a check.  Most checks look
at the value of their own field alone; a check for agreement also looks up one
other field.
-/

namespace FormRules

/-- What a validator checks. -/
inductive Check where
  /-- The value passes a test of its own. -/
  | passes (test : Value → Bool)
  /-- The value agrees with the value of another field. -/
  | agreesWith (other : String)
  /-- Any check, with a code of its own choice. -/
  | custom (run : Value → Lookup → Option Code)

/-- A rule that is ready to run. -/
structure Validator where
  /-- The name of the rule, without its argument. -/
  rule : String
  check : Check

namespace Validator

/-- Two fields disagree when both have a value and the values differ. -/
def disagree (value : Value) (other : Option Value) : Bool :=
  match other with
  | none => false
  | some expected => !value.isEmpty && !expected.isEmpty && !(expected == value)

/-- The failure code of a value, if it fails. -/
def validate (v : Validator) (value : Value) (fields : Lookup) : Option Code :=
  match v.check with
  | .passes test => if test value then none else some v.rule
  | .agreesWith other => if disagree value (fields other) then some v.rule else none
  | .custom run => run value fields

/-- The text by which a validator is known. -/
def label (v : Validator) : String :=
  "Validator(" ++ v.rule ++ ")"

end Validator

/-- Run a chain of validators and collect their codes. -/
def runChain (chain : List Validator) (value : Value) (fields : Lookup) : FailureSet :=
  .ofList (chain.filterMap fun v => v.validate value fields)

end FormRules
