import FormRules.Form.Journal

/-!
# A signup session

A user fills in a signup form badly, submits it, and corrects it.  After each
step the form is listed with what it shows at its fields.  The session works
with any definition; the fields that it writes must be declared.
-/

namespace FormRules.Signup

/-- The definition that is used unless another one is given. -/
def embedded : Definition where
  fields := [
    .new "username" "required|minlength[3]|maxlength[20]",
    .new "email" "required|valid_email",
    .new "facebook" "valid_facebook",
    .new "age" "min[18]|max[130]",
    .new "confirm" "required|matches[password]",
    .new "password" "required|minlength[8]|pattern[.*\\d.*]",
    .unchecked "bio"]
  messages := .ofPairs [
    ("required", "Please fill in this field"),
    ("matches", "Passwords do not match")]

/-- What the user fills in at first. -/
def firstValues : List (String × Json) := [
  ("age", .natural 16),
  ("confirm", .string "hunter22"),
  ("email", .string "al@example"),
  ("facebook", .string "https://twitter.com/al"),
  ("password", .string "hunter2"),
  ("username", .string "al")]

/-- The fields that the user leaves before submitting. -/
def firstTouched : List String := ["username", "email", "age"]

/-- The corrections, in the order in which the user makes them. -/
def corrections : List (String × Value) := [
  ("username", .text "alice"),
  ("email", .text "alice@example.com"),
  ("facebook", .text "facebook.com/alice"),
  ("age", .number 30),
  ("password", .text "hunter22")]

/-- The texts that the session shows instead of the form's. -/
def overrides : MessageTable :=
  .ofPairs [("pattern", "Password needs at least one digit")]

/-- Pad a text on the right. -/
def pad (width : Nat) (s : String) : String :=
  s ++ String.ofList (List.replicate (width - s.length) ' ')

/-- The line of one field in a listing: a cross and the texts to show, or a
check mark. -/
def line (r : Registry) (overrides : Option MessageTable) (field : String) : String :=
  match r.errors field overrides with
  | some texts => "  ✗ " ++ pad 10 field ++ " " ++ "; ".intercalate texts
  | none => "  ✓ " ++ field

/-- A listing: one line for each field, in order. -/
def listing (r : Registry) (overrides : Option MessageTable) : List String :=
  r.fields.map (line r overrides)

/-- One step of what a session shows: a printed line or a log event. -/
inductive Entry where
  | line (text : String)
  | event (e : LogEvent)
  deriving DecidableEq, Repr

namespace Entry

/-- The printed lines among some entries. -/
def lines (entries : List Entry) : List String :=
  entries.filterMap fun entry =>
    match entry with
    | line text => some text
    | event _ => none

/-- The log events among some entries. -/
def events (entries : List Entry) : List LogEvent :=
  entries.filterMap fun entry =>
    match entry with
    | line _ => none
    | event e => some e

@[simp] theorem lines_nil : lines [] = [] := rfl

@[simp] theorem lines_line (text : String) (rest : List Entry) :
    lines (line text :: rest) = text :: lines rest := rfl

@[simp] theorem lines_event (e : LogEvent) (rest : List Entry) :
    lines (event e :: rest) = lines rest := rfl

@[simp] theorem lines_append (a b : List Entry) : lines (a ++ b) = lines a ++ lines b :=
  List.filterMap_append

@[simp] theorem lines_map_event (es : List LogEvent) : lines (es.map event) = [] := by
  induction es with
  | nil => rfl
  | cons e es ih => simp [ih]

@[simp] theorem lines_map_line (texts : List String) : lines (texts.map line) = texts := by
  induction texts with
  | nil => rfl
  | cons t ts ih => simp [ih]

end Entry

/-- The entries of a listing under a title: for each field the events of finding
its texts, then its line. -/
def listingEntries (title : List String) (r : Registry) (overrides : Option MessageTable) :
    List Entry :=
  title.map .line ++ r.fields.flatMap fun field =>
    (r.errorsEvents field overrides).map .event ++ [.line (line r overrides field)]

theorem lines_listingEntries (title : List String) (r : Registry)
    (overrides : Option MessageTable) :
    Entry.lines (listingEntries title r overrides) = title ++ listing r overrides := by
  have hfields (fields : List String) :
      Entry.lines (fields.flatMap fun field =>
        (r.errorsEvents field overrides).map .event ++ [.line (line r overrides field)]) =
        fields.map (line r overrides) := by
    induction fields with
    | nil => rfl
    | cons f fs ih => simp [ih]
  simp [listingEntries, listing, hfields]

/-- Fill in the form at first. -/
def fillIn (r : Registry) : Except RuleError Registry := do
  let r ← (r.patchValues firstValues).accepted
  firstTouched.foldlM (fun r field => (r.markTouched field).accepted) r

/-- Correct the form. -/
def correct (r : Registry) : Except RuleError Registry := do
  let r ← corrections.foldlM (fun r write => (r.setValue write.1 write.2).accepted) r
  (r.validate "confirm").accepted

/-- What a session leaves behind. -/
structure Outcome where
  /-- Printed lines and log events, shown or not, in order. -/
  entries : List Entry
  /-- Why the session ended early, if it did. -/
  failure : Option String

namespace Outcome

/-- The printed lines. -/
def output (o : Outcome) : List String := Entry.lines o.entries

/-- The log events. -/
def events (o : Outcome) : List LogEvent := Entry.events o.entries

/-- The status with which a program that runs the session ends. -/
def status (o : Outcome) : Nat := if o.failure.isNone then 0 else 1

/-- What a program that runs the session writes on its error channel. -/
def complaint (o : Outcome) : Option String := o.failure.map ("Error: " ++ ·)

/-- Let some events go before a session. -/
def after (events : List LogEvent) (o : Outcome) : Outcome :=
  { o with entries := events.map .event ++ o.entries }

end Outcome

/-- An event of the session itself. -/
def report (level : LogLevel) (text : String) : LogEvent := ⟨level, .program, text⟩

/-- The event at the start of a session. -/
def ready (r : Registry) : LogEvent :=
  report .info ("Signup form ready with " ++ toString r.size ++ " field(s)")

/-- The event at the end of a session. -/
def verdict (r : Registry) : LogEvent :=
  if r.validateAll.1 then report .info "Signup form is valid"
  else report .warn "Signup form still has errors"

/-- Run a session on a form. -/
def runOn (r : Registry) : Outcome :=
  let opening := (ready r :: r.patchEvents firstValues).map Entry.event
  match fillIn r with
  | .error e => ⟨opening, some e.message⟩
  | .ok filled =>
      let submitted := filled.markAllTouched
      let entries := opening ++
        listingEntries ["After first pass (only touched fields show errors):"] filled none ++
        listingEntries ["", "On submit:"] submitted (some overrides)
      match correct submitted with
      | .error e => ⟨entries, some e.message⟩
      | .ok corrected =>
          ⟨entries ++ listingEntries ["", "After corrections:"] corrected (some overrides) ++
            [.event (verdict corrected)], none⟩

/-- Run a session with a definition. -/
def run (d : Definition) : Outcome :=
  let built := d.buildLogged
  match built.result with
  | .error e => .after built.events ⟨[], some e.message⟩
  | .ok r => .after built.events (runOn r)

/-- Run a session with the definition in a file, given the bytes of the file if
there is one. -/
def runFile (path : String) (contents : Option ByteArray) : Outcome :=
  let events := Definition.loadEvents path contents
  match Definition.load path contents with
  | .error _ => .after events ⟨[], some ("Failed to load form definition '" ++ path ++ "'")⟩
  | .ok d => .after events (run d)

end FormRules.Signup
