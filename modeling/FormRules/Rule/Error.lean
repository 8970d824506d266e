/-!
# Errors of rules and of writes

A rule error arises while a rule string is read or compiled, or when a form is
asked for a field it does not have.  A failed check is no error: it is a
failure code.  The wording of every error is in `RuleError.message`.
-/

namespace FormRules

/-- Why a rule string, a specification or a write is refused.  The first five
causes arise before the field is known; they carry an empty field name until
`forField` fills it in. -/
inductive RuleError where
  /-- No rule has this name. -/
  | unknownRule (field rule : String)
  /-- The piece of the rule string is not a rule. -/
  | malformedRule (field token reason : String)
  /-- The rule takes no argument and was given one. -/
  | unexpectedArgument (field rule argument : String)
  /-- The rule needs an argument and was given none. -/
  | missingArgument (field rule : String)
  /-- The argument of the rule cannot be read. -/
  | invalidArgument (field rule argument reason : String)
  /-- The field is declared by two specifications. -/
  | duplicateField (field : String)
  /-- The form has no such field. -/
  | unknownField (field : String)
  /-- The value written to the field is a list or an object. -/
  | unsupportedValue (field : String)
  deriving DecidableEq, Repr

namespace RuleError

/-- The name of the field as the error holds it; empty while it is not known. -/
def fieldName : RuleError → String
  | unknownRule field _ => field
  | malformedRule field _ _ => field
  | unexpectedArgument field _ _ => field
  | missingArgument field _ => field
  | invalidArgument field _ _ _ => field
  | duplicateField field => field
  | unknownField field => field
  | unsupportedValue field => field

/-- The field at fault, if it is known. -/
def field? (e : RuleError) : Option String :=
  if e.fieldName.isEmpty then none else some e.fieldName

/-- Fill in the field of an error that arose before the field was known.
Errors that are about a field of their own keep it. -/
def forField (name : String) : RuleError → RuleError
  | unknownRule _ rule => unknownRule name rule
  | malformedRule _ token reason => malformedRule name token reason
  | unexpectedArgument _ rule argument => unexpectedArgument name rule argument
  | missingArgument _ rule => missingArgument name rule
  | invalidArgument _ rule argument reason => invalidArgument name rule argument reason
  | duplicateField field => duplicateField field
  | unknownField field => unknownField field
  | unsupportedValue field => unsupportedValue field

/-- The words that place an error at a field; none while the field is unknown. -/
def onField (field : String) : String :=
  if field.isEmpty then "" else " on field '" ++ field ++ "'"

/-- The text of an error. -/
def message : RuleError → String
  | unknownRule field rule => "Unknown rule '" ++ rule ++ "'" ++ onField field
  | malformedRule field token reason =>
      "Malformed rule '" ++ token ++ "'" ++ onField field ++ ": " ++ reason
  | unexpectedArgument field rule argument =>
      "Rule '" ++ rule ++ "'" ++ onField field ++ " does not take an argument (got '" ++
        argument ++ "')"
  | missingArgument field rule =>
      "Rule '" ++ rule ++ "'" ++ onField field ++ " requires an argument, e.g. " ++ rule ++
        "[...]"
  | invalidArgument field rule argument reason =>
      "Invalid argument '" ++ argument ++ "' for rule '" ++ rule ++ "'" ++ onField field ++
        ": " ++ reason
  | duplicateField field => "Field '" ++ field ++ "' is declared more than once"
  | unknownField field => "Unknown field '" ++ field ++ "'"
  | unsupportedValue field => "Field '" ++ field ++ "' only accepts primitive values"

end RuleError

end FormRules
