import FormRules.Toml.Scalar

/-!
# Reading TOML

A document is a list of lines: pairs of keys and values, headers of tables, and
comments.  `Toml.read?` gives the table of a document, or nothing if the text is
no document.
-/

namespace FormRules.Toml

/-- Neither values nor keys may be nested as deeply as this. -/
def nestingLimit : Nat := 80

/-- The rest after a comment, if the text starts with one; the end of its line
is part of the rest. -/
def dropComment : List Char → List Char
  | '#' :: rest => rest.dropWhile isPlain
  | cs => cs

/-- The rest after the end of a line, with blanks and a comment before it.  The
end of the text ends a line too. -/
def endLine? (cs : List Char) : Option (List Char) :=
  match dropComment (dropSpaces cs) with
  | [] => some []
  | cs => newline? cs

/-- Drop blanks, ends of lines and comments.  A comment that is not followed by
the end of a line remains. -/
def dropBlanks : Nat → List Char → List Char
  | 0, cs => cs
  | fuel + 1, cs =>
      match dropSpaces cs with
      | '#' :: rest =>
          match newline? (rest.dropWhile isPlain) with
          | some rest => dropBlanks fuel rest
          | none => '#' :: rest
      | cs =>
          match newline? cs with
          | some rest => dropBlanks fuel rest
          | none => cs

/-- The characters of a key without quotes. -/
def isBare (c : Char) : Bool := c.isAlphanum || c == '_' || c == '-'

/-- One part of a key. -/
def readSimpleKey (fuel : Nat) (cs : List Char) : Option (Read String) :=
  match cs with
  | '"' :: rest => (readBasic fuel rest).map fun (k, rest) => (String.ofList k, rest)
  | '\'' :: rest => (readLiteral rest).map fun (k, rest) => (String.ofList k, rest)
  | cs =>
      let key := cs.takeWhile isBare
      if key.isEmpty then none else some (String.ofList key, cs.dropWhile isBare)

/-- The parts of a key, with dots between them. -/
def readKeyParts : Nat → List Char → Option (Read (List String))
  | 0, _ => none
  | fuel + 1, cs => do
      let (part, rest) ← readSimpleKey (fuel + 1) (dropSpaces cs)
      match dropSpaces rest with
      | '.' :: rest => do
          let (parts, rest) ← readKeyParts fuel rest
          some (part :: parts, rest)
      | rest => some ([part], rest)

/-- A key: the parts before the last one, and the last one. -/
def readKey (fuel : Nat) (cs : List Char) : Option (Read (List String × String)) := do
  let (parts, rest) ← readKeyParts fuel cs
  match parts.getLast? with
  | some last => if parts.length < nestingLimit then some ((parts.dropLast, last), rest) else none
  | none => none

mutual

/-- A value; `depth` counts the lists and tables around it. -/
def readValue : Nat → Nat → List Char → Option (Read Value)
  | 0, _, _ => none
  | fuel + 1, depth, cs =>
      match cs with
      | '"' :: _ => (readString fuel cs).map fun (s, rest) => (.string s, rest)
      | '\'' :: _ => (readString fuel cs).map fun (s, rest) => (.string s, rest)
      | '[' :: rest =>
          if depth + 1 < nestingLimit then
            (readItems fuel (depth + 1) rest).map fun (items, rest) => (.array items, rest)
          else
            none
      | '{' :: rest =>
          if depth + 1 < nestingLimit then
            match dropSpaces rest with
            | '}' :: rest => some (.table [], rest)
            | rest => readPairs fuel (depth + 1) [] rest
          else
            none
      | 't' :: 'r' :: 'u' :: 'e' :: rest => some (.boolean true, rest)
      | 'f' :: 'a' :: 'l' :: 's' :: 'e' :: rest => some (.boolean false, rest)
      | cs => readNumeral cs

/-- The items of a list up to its closing bracket.  Items have commas between
them, and may have one after the last. -/
def readItems : Nat → Nat → List Char → Option (Read (List Value))
  | 0, _, _ => none
  | fuel + 1, depth, cs =>
      match dropBlanks fuel cs with
      | ']' :: rest => some ([], rest)
      | cs => do
          let (item, rest) ← readValue fuel depth cs
          match dropBlanks fuel rest with
          | ',' :: rest => do
              let (items, rest) ← readItems fuel depth rest
              some (item :: items, rest)
          | ']' :: rest => some ([item], rest)
          | _ => none

/-- The pairs of a table within a line, up to its closing brace. -/
def readPairs : Nat → Nat → Entries → List Char → Option (Read Value)
  | 0, _, _, _ => none
  | fuel + 1, depth, entries, cs => do
      let ((path, key), rest) ← readKey (fuel + 1) cs
      match rest with
      | '=' :: rest => do
          let (value, rest) ← readValue fuel depth (dropSpaces rest)
          let entries ← Entries.addValue path key value false entries
          match dropSpaces rest with
          | ',' :: rest => readPairs fuel depth entries rest
          | '}' :: rest => some (.table (valuesOf entries), rest)
          | _ => none
      | _ => none

end

/-- A document that is being read: its entries, and the path of the table that
pairs go to. -/
structure Draft where
  entries : Entries
  current : List String

namespace Draft

/-- Add a pair to the current table. -/
def addPair (d : Draft) (path : List String) (key : String) (v : Value) : Option Draft := do
  let entries ← Entries.follow false (Entries.addValue path key v) d.current false d.entries
  some { d with entries := entries }

/-- Turn to the table of a header. -/
def openTable (d : Draft) (path : List String) (key : String) : Option Draft := do
  let entries ← d.entries.openTable path key
  some ⟨entries, path ++ [key]⟩

/-- Turn to a new table in the list of tables of a header. -/
def appendTable (d : Draft) (path : List String) (key : String) : Option Draft := do
  let entries ← d.entries.appendTable path key
  some ⟨entries, path ++ [key]⟩

end Draft

/-- Read one line that is not blank. -/
def readLine (fuel : Nat) (d : Draft) (cs : List Char) : Option (Read Draft) :=
  match cs with
  | '#' :: _ => (endLine? cs).map (d, ·)
  | '[' :: '[' :: rest => do
      let ((path, key), rest) ← readKey fuel rest
      match rest with
      | ']' :: ']' :: rest => do
          let rest ← endLine? rest
          let d ← d.appendTable path key
          some (d, rest)
      | _ => none
  | '[' :: rest => do
      let ((path, key), rest) ← readKey fuel rest
      match rest with
      | ']' :: rest => do
          let rest ← endLine? rest
          let d ← d.openTable path key
          some (d, rest)
      | _ => none
  | cs =>
      match newline? cs with
      | some rest => some (d, rest)
      | none => do
          let ((path, key), rest) ← readKey fuel cs
          match rest with
          | '=' :: rest => do
              let (value, rest) ← readValue fuel 0 (dropSpaces rest)
              let rest ← endLine? rest
              let d ← d.addPair path key value
              some (d, rest)
          | _ => none

/-- Read line after line to the end of the text. -/
def readDocument : Nat → Draft → List Char → Option Draft
  | 0, _, _ => none
  | fuel + 1, d, cs =>
      match dropSpaces cs with
      | [] => some d
      | cs => do
          let (d, rest) ← readLine (fuel + 1) d cs
          readDocument fuel d rest

/-- Read a document.  A byte order mark at its start does not count. -/
def read? (text : String) : Option (List (String × Value)) :=
  let cs :=
    match text.toList with
    | '\uFEFF' :: rest => rest
    | cs => cs
  (readDocument (cs.length + 1) ⟨[], []⟩ cs).map fun d => valuesOf d.entries

end FormRules.Toml
