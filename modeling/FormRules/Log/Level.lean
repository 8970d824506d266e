import FormRules.Text.Casing

/-!
# Levels and formats of logs

The levels of log events from the most talkative to the most severe, the formats
in which logs are written, and the spellings by which settings name them.
-/

namespace FormRules

/-- How severe a log event is. -/
inductive LogLevel where
  | trace
  | debug
  | info
  | warn
  | error
  deriving DecidableEq, Repr

/-- How a log is written. -/
inductive LogFormat where
  | compact
  | full
  | json
  | pretty
  deriving DecidableEq, Repr

/-- Read one of some spellings in any case.  What is none of them is refused with
a text that quotes it. -/
def readSpelling {α : Type} (refusal : String) (spellings : List (String × α)) (s : String) :
    Except String α :=
  match spellings.lookup (Text.lower s) with
  | some a => .ok a
  | none => .error (refusal ++ s)

namespace LogLevel

/-- The usual spelling of a level. -/
def name : LogLevel → String
  | trace => "trace"
  | debug => "debug"
  | info => "info"
  | warn => "warn"
  | error => "error"

/-- How severe a level is, as a number. -/
def severity : LogLevel → Nat
  | trace => 0
  | debug => 1
  | info => 2
  | warn => 3
  | error => 4

/-- The spellings of the levels. -/
def spellings : List (String × LogLevel) :=
  [("trace", trace), ("debug", debug), ("info", info), ("warn", warn), ("warning", warn),
    ("error", error)]

/-- Read a level in any case. -/
def parse (s : String) : Except String LogLevel :=
  readSpelling "Invalid log level: " spellings s

end LogLevel

namespace LogFormat

/-- The usual spelling of a format. -/
def name : LogFormat → String
  | compact => "compact"
  | full => "full"
  | json => "json"
  | pretty => "pretty"

/-- The spellings of the formats. -/
def spellings : List (String × LogFormat) :=
  [("compact", compact), ("full", full), ("json", json), ("pretty", pretty)]

/-- Read a format in any case. -/
def parse (s : String) : Except String LogFormat :=
  readSpelling "Invalid log format: " spellings s

end LogFormat

end FormRules
