import FormRules.Log.Event
import FormRules.Number.Literal
import FormRules.Number.Natural
import FormRules.Pattern.Reader
import FormRules.Text.Blank
import FormRules.Text.Slice
import FormRules.Unicode.Naming

/-!
# Log filters

A filter is a list of directives with commas between them.  A directive names a
target, a level, or both, as in `info` and `forms=debug`.  Of the directives
that apply to an event, the most specific one decides.
-/

namespace FormRules

/-- What a directive asks of a field. -/
structure LogField where
  /-- The field must be there. -/
  name : String
  /-- It must have some value too. -/
  hasValue : Bool
  deriving DecidableEq, Repr

/-- One directive of a filter. -/
structure LogDirective where
  /-- The start of the targets that it applies to; without one, all. -/
  target : Option String
  /-- Does it name a span?  Events outside of all spans are never in one. -/
  span : Bool
  /-- The field that it asks for.  Only spans have values of fields. -/
  field : Option LogField
  /-- The least severe level to show; without one, nothing is shown. -/
  level : Option LogLevel
  deriving DecidableEq, Repr

/-- Cut a text into what stands before the first of some characters, that
character, and the rest. -/
def cutAtAny (marks : List Char) (cs : List Char) : List Char × Option (Char × List Char) :=
  let before := cs.takeWhile (· ∉ marks)
  match cs.dropWhile (· ∉ marks) with
  | [] => (before, none)
  | c :: rest => (before, some (c, rest))

namespace LogField

/-- Can a field be asked for this value?  It is a number or a pattern of any
size that does not depend on the edges of words. -/
def isValue (cs : List Char) : Bool :=
  (Number.readFloat cs).isOk ||
    match Pattern.readAny cs with
    | .ok part => !part.pattern.usesWordEdges
    | .error _ => false

/-- Read a field: a name, with an equals sign and a value if there is one.  What
follows another equals sign does not count. -/
def parse? (cs : List Char) : Option LogField :=
  if cs = [] then
    none
  else
    match cutAtAny ['='] cs with
    | (name, none) => some ⟨String.ofList name, false⟩
    | (name, some (_, rest)) =>
        if isValue (rest.takeWhile (· != '=')) then some ⟨String.ofList name, true⟩ else none

end LogField

namespace LogDirective

/-- Read a level of a directive: a word in any case, or a number up to five.
The outer option says whether it is a level, the inner one is empty for no
events at all.  The empty text asks for errors. -/
def level? (cs : List Char) : Option (Option LogLevel) :=
  match Number.readNatural cs with
  | .ok 0 => some none
  | .ok 1 => some (some .error)
  | .ok 2 => some (some .warn)
  | .ok 3 => some (some .info)
  | .ok 4 => some (some .debug)
  | .ok 5 => some (some .trace)
  | _ =>
      match String.ofList (cs.map Char.toLower) with
      | "" => some (some .error)
      | "error" => some (some .error)
      | "warn" => some (some .warn)
      | "info" => some (some .info)
      | "debug" => some (some .debug)
      | "trace" => some (some .trace)
      | "off" => some none
      | _ => none

/-- The level behind an equals sign; nothing behind it asks for all events. -/
def levelAfterSign? (cs : List Char) : Option (Option LogLevel) :=
  if cs = [] then some (some .trace) else level? cs

/-- A directive about everything, which its parts then narrow. -/
def everything : LogDirective := ⟨none, false, none, some .trace⟩

/-- Can a directive start with this character? -/
def canStart (c : Char) : Bool :=
  c == '-' || c == ':' || c == '_' || Unicode.isNameAlphanumeric c

/-- Read what may stand behind a span: a level.  It starts at `place`, and what
is written there counts as the level. -/
def readTail (written : List Char) (place : Nat) (d : LogDirective) :
    List Char → Option LogDirective
  | [] => some d
  | '=' :: _ => do
      let level ← levelAfterSign? (← Text.dropBytes? (place + 1) written)
      some { d with level := level }
  | _ => none

/-- Read the field of a span after its opening brace. -/
def readField (written : List Char) (place : Nat) (d : LogDirective) (cs : List Char) :
    Option LogDirective :=
  match cutAtAny ['\x7d'] cs with
  | (inside, some (_, ']' :: rest)) => do
      let stop := place + Text.byteLength inside
      let field ← LogField.parse? (← Text.slice? place stop written)
      readTail written (stop + 2) { d with field := some field } rest
  | _ => none

/-- Read a span after its opening bracket: a name, and a field in braces. -/
def readSpan (written : List Char) (place : Nat) (d : LogDirective) (cs : List Char) :
    Option LogDirective :=
  match cutAtAny [']', '\x7b'] cs with
  | (name, some (mark, rest)) => do
      let stop := place + Text.byteLength name
      let name ← Text.slice? place stop written
      if mark = ']' then
        readTail written (stop + 1) { d with span := true } rest
      else
        readField written (stop + 1) { d with span := name ≠ [] } rest
  | (_, none) => none

/-- Read a directive.  The places of its parts are counted in the text without
the blanks around it, and its parts are taken from the text as written: blanks
at the front push every part to the left, and blanks at the back belong to the
last part. -/
def parse? (written : List Char) : Option LogDirective :=
  match Text.trim written with
  | [] => none
  | '[' :: rest => readSpan written 1 everything rest
  | c :: rest =>
      if canStart c then
        match cutAtAny ['=', '['] (c :: rest) with
        | (_, none) =>
            match level? written with
            | some level => some { everything with level := level }
            | none => some { everything with target := some (String.ofList written) }
        | (name, some (mark, rest)) => do
            let stop := Text.byteLength name
            let target ← Text.takeBytes? stop written
            let d := { everything with target := some (String.ofList target) }
            if mark = '=' then
              readTail written stop d (mark :: rest)
            else
              readSpan written (stop + 1) d rest
      else
        none

/-- Can the directive decide about an event outside of all spans? -/
def isStatic (d : LogDirective) : Bool := !d.span && d.field.all (!·.hasValue)

/-- Does the directive apply to the events of a target?  The only field of an
event is its message. -/
def appliesTo (d : LogDirective) (target : String) : Bool :=
  d.isStatic && d.field.all (·.name == "message") &&
    d.target.all fun start => start.toList.isPrefixOf target.toList

/-- How specific a directive is: longer targets first, then a field. -/
def weight (d : LogDirective) : Nat × Nat :=
  (d.target.elim 0 fun target => target.utf8ByteSize + 1, if d.field.isSome then 1 else 0)

/-- Is the second directive to be preferred?  Of two equally specific ones the
later counts. -/
def prefers (a b : LogDirective) : Bool :=
  decide (a.weight.1 < b.weight.1) ||
    (a.weight.1 == b.weight.1 && decide (a.weight.2 ≤ b.weight.2))

end LogDirective

/-- A log filter. -/
abbrev LogFilter := List LogDirective

namespace LogFilter

/-- The filter of one level. -/
def ofLevel (level : LogLevel) : LogFilter :=
  [{ LogDirective.everything with level := some level }]

/-- Read a filter; without any directive it shows errors. -/
def parse? (s : String) : Option LogFilter :=
  let pieces := (Text.cut ',' s.toList).filter (· ≠ [])
  if pieces = [] then some (ofLevel .error) else pieces.mapM LogDirective.parse?

/-- The directive that decides about the events of a target. -/
def decisive? (filter : LogFilter) (target : String) : Option LogDirective :=
  (filter.filter (·.appliesTo target)).foldl
    (fun best d =>
      match best with
      | none => some d
      | some b => some (if LogDirective.prefers b d then d else b))
    none

/-- Is an event shown? -/
def shows (filter : LogFilter) (targets : LogTargets) (e : LogEvent) : Bool :=
  match filter.decisive? (targets.of e.source) with
  | none => false
  | some d => d.level.any fun level => decide (level.severity ≤ e.level.severity)

end LogFilter

end FormRules
