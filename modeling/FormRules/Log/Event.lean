import FormRules.Log.Level

/-!
# Log events

What a form reports while it works.  Every event comes from one part of the
library or from the program that uses it.
-/

namespace FormRules

/-- The parts that report events. -/
inductive LogSource where
  | registry
  | resolver
  | messages
  | config
  /-- The program that uses the library. -/
  | program
  deriving DecidableEq, Repr

/-- A log event. -/
structure LogEvent where
  level : LogLevel
  source : LogSource
  text : String
  deriving DecidableEq, Repr

/-- The names under which filters know the library and the program. -/
structure LogTargets where
  library : String
  program : String

/-- The target of a part. -/
def LogTargets.of (targets : LogTargets) : LogSource → String
  | .registry => targets.library ++ "::registry"
  | .resolver => targets.library ++ "::resolver"
  | .messages => targets.library ++ "::messages"
  | .config => targets.library ++ "::config"
  | .program => targets.program

end FormRules
