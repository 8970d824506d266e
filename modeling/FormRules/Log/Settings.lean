import FormRules.Log.Filter

/-!
# Log settings

The level, the format and the filter of a log, with their defaults, and the
environment variables that override them.
-/

namespace FormRules

/-- The settings of a log. -/
structure LogSettings where
  level : LogLevel
  format : LogFormat
  /-- Is the target of every event shown? -/
  showTarget : Bool
  /-- The text of a filter; it counts instead of the level if it can be read. -/
  filter : Option String
  deriving DecidableEq, Repr

namespace LogSettings

/-- The settings without any choice. -/
def default : LogSettings := ⟨.info, .compact, false, none⟩

instance : Inhabited LogSettings := ⟨default⟩

/-- Set the level. -/
def withLevel (s : LogSettings) (level : LogLevel) : LogSettings := { s with level := level }

/-- Set the format. -/
def withFormat (s : LogSettings) (format : LogFormat) : LogSettings := { s with format := format }

/-- Say whether targets are shown. -/
def withShowTarget (s : LogSettings) (on : Bool) : LogSettings := { s with showTarget := on }

/-- Set the filter. -/
def withFilter (s : LogSettings) (filter : String) : LogSettings :=
  { s with filter := some filter }

/-- The variable of the filter. -/
def filterVariable : String := "RUST_LOG"

/-- The variable of the level. -/
def levelVariable : String := "LOG_LEVEL"

/-- The variable of the format. -/
def formatVariable : String := "LOG_FORMAT"

/-- The settings of an environment.  A level or a format that cannot be read
does not count. -/
def ofEnvironment (env : String → Option String) : LogSettings where
  level := ((env levelVariable).bind fun s => (LogLevel.parse s).toOption).getD default.level
  format := ((env formatVariable).bind fun s => (LogFormat.parse s).toOption).getD default.format
  showTarget := default.showTarget
  filter := env filterVariable

/-- The filter in force: the written one if it can be read, else the level. -/
def activeFilter (s : LogSettings) : LogFilter :=
  (s.filter.bind LogFilter.parse?).getD (.ofLevel s.level)

/-- The text of the refusal to install a log. -/
def installRefusal : String :=
  "Failed to initialize logging: a global default trace dispatcher has already been set"

/-- Install the log of a process; the result is the filter in force.  A process
has one log, so this fails if there is one already. -/
def install (s : LogSettings) (installed : Bool) : Except String LogFilter :=
  if installed then .error installRefusal else .ok s.activeFilter

end LogSettings

end FormRules
