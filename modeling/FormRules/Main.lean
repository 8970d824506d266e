import FormRules.Log.Settings
import FormRules.Signup.Session

/-!
# The signup program

The program runs a signup session with the definition in the file that its first
argument names, or with its own.  Its log settings come from the environment,
and its log goes to standard output between the lines of the session.
-/

open FormRules

/-- The names of the library and of this program in log filters. -/
def logTargets : LogTargets := ⟨"form_rules", "signup_demo"⟩

/-- A log event as a line. -/
def logLine (settings : LogSettings) (e : LogEvent) : String :=
  let target := if settings.showTarget then " " ++ logTargets.of e.source ++ ":" else ""
  e.level.name.toUpper ++ target ++ " " ++ e.text

/-- The bytes of a file, if it can be read. -/
def readFile? (path : String) : IO (Option ByteArray) :=
  try
    return some (← IO.FS.readBinFile path)
  catch _ =>
    return none

/-- The environment variables of the log settings. -/
def readEnvironment : IO (String → Option String) := do
  let names := [LogSettings.filterVariable, LogSettings.levelVariable, LogSettings.formatVariable]
  let pairs ← names.mapM fun name => return (name, ← IO.getEnv name)
  return fun name => (pairs.lookup name).join

/-- Run a session and print it. -/
def main (arguments : List String) : IO UInt32 := do
  let settings := LogSettings.ofEnvironment (← readEnvironment)
  match settings.install false with
  | .error refusal =>
      IO.eprintln ("Error: " ++ refusal)
      return 1
  | .ok filter =>
      let outcome ←
        match arguments with
        | path :: _ => pure (Signup.runFile path (← readFile? path))
        | [] => pure (Signup.run Signup.embedded)
      for entry in outcome.entries do
        match entry with
        | .line text => IO.println text
        | .event e => if filter.shows logTargets e then IO.println (logLine settings e)
      match outcome.complaint with
      | some text => IO.eprintln text
      | none => pure ()
      return outcome.status.toUInt32
