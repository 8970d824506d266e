import FormRules.Form.Registry
import FormRules.Text.Quoted
import FormRules.Toml.Reader

/-!
# Form definitions

A definition is a document with the specifications of the fields and with texts
of its own for failure codes.  It can be built into a new form or installed into
one that exists.
-/

namespace FormRules

/-- Why a definition cannot be used. -/
inductive DefinitionError where
  /-- One of its specifications is refused. -/
  | rule (e : RuleError)
  /-- The text is no document, or the document is no definition. -/
  | malformed
  /-- There is no file at the path. -/
  | missingFile (path : String)
  /-- The bytes of the file are no text. -/
  | notText (path : String)
  deriving DecidableEq, Repr

/-- The text of an error. -/
def DefinitionError.message : DefinitionError → String
  | rule e => e.message
  | malformed => "Failed to parse form definition"
  | missingFile path =>
      "Failed to read form definition " ++ Text.quoted path ++
        ": No such file or directory (os error 2)"
  | notText path =>
      "Failed to read form definition " ++ Text.quoted path ++
        ": stream did not contain valid UTF-8"

/-- The specifications of a form and its own texts. -/
structure Definition where
  fields : List RuleSpec
  messages : MessageTable

namespace Definition

/-- A definition without fields and texts. -/
def empty : Definition := ⟨[], .empty⟩

instance : Inhabited Definition := ⟨empty⟩

/-- The text of a value that is a string. -/
def text? : Toml.Value → Option String
  | .string s => some s
  | _ => none

/-- A specification in a document: a table with a `field` and maybe `rules`,
whatever else it holds, or a list that starts with them. -/
def specOf? : Toml.Value → Option RuleSpec
  | .table entries => do
      let field ← (entries.lookup "field").bind text?
      match entries.lookup "rules" with
      | some rules => (text? rules).map fun rules => ⟨field, some rules⟩
      | none => some ⟨field, none⟩
  | .array [field] => (text? field).map .unchecked
  | .array (field :: rules :: _) => do
      let field ← text? field
      let rules ← text? rules
      some ⟨field, some rules⟩
  | _ => none

/-- The specifications of a document. -/
def specsOf? : Toml.Value → Option (List RuleSpec)
  | .array items => items.mapM specOf?
  | _ => none

/-- The texts in the entries of a table, all of which are strings. -/
def messagesOfEntries? (entries : List (String × Toml.Value)) : Option MessageTable :=
  (entries.mapM fun entry => (text? entry.2).map fun text => (entry.1, text)).map .ofPairs

/-- The key under which a date stands where a table is expected. -/
def dateKey : String := "$__toml_private_datetime"

/-- The texts of a document.  A date is a table of one text. -/
def messagesOf? : Toml.Value → Option MessageTable
  | .table entries => messagesOfEntries? entries
  | .datetime date => some (.ofPairs [(dateKey, date)])
  | _ => none

/-- The definition in a document; entries with other names do not count. -/
def ofEntries? (entries : List (String × Toml.Value)) : Option Definition := do
  let fields ← (entries.lookup "fields").elim (some []) specsOf?
  let messages ← (entries.lookup "messages").elim (some .empty) messagesOf?
  some ⟨fields, messages⟩

/-- Read a definition. -/
def read (text : String) : Except DefinitionError Definition :=
  match (Toml.read? text).bind ofEntries? with
  | some d => .ok d
  | none => .error .malformed

/-- Read the definition in the bytes of a file, if there is a file. -/
def load (path : String) (contents : Option ByteArray) : Except DefinitionError Definition :=
  match contents with
  | none => .error (.missingFile path)
  | some bytes =>
      match String.fromUTF8? bytes with
      | none => .error (.notText path)
      | some text => read text

/-- The default texts with the definition's own in front of them. -/
def messageTable (d : Definition) : MessageTable :=
  MessageTable.defaults.extend d.messages

/-- A new form with the standard rules, the fields of the definition and its
message table. -/
def build (d : Definition) : Except RuleError Registry :=
  ((Registry.new.withMessages d.messageTable).install d.fields).accepted

/-- Add the texts of the definition to those of a form. -/
def addTexts (d : Definition) (r : Registry) : Registry :=
  r.withMessages (r.messages.extend d.messages)

/-- Replace the fields of a form by those of the definition and add its texts.
If the fields are refused, the texts are not added. -/
def installInto (d : Definition) (r : Registry) : Registry.Reply Unit :=
  (r.install d.fields).andThen fun _ installed => ⟨.ok (), d.addTexts installed⟩

end Definition

namespace MessageTable

/-- Read a table from a document that maps codes to texts. -/
def read (text : String) : Except DefinitionError MessageTable :=
  match (Toml.read? text).bind Definition.messagesOfEntries? with
  | some t => .ok t
  | none => .error .malformed

end MessageTable

end FormRules
