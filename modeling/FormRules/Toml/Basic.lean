/-!
# TOML documents

The values of a TOML document, and the table that grows while a document is
read.  A table remembers how it came about, because a table that was written out
cannot be written out again.
-/

namespace FormRules.Toml

/-- A value of a document. -/
inductive Value where
  | string (s : String)
  | integer (n : Int)
  | float (x : Float)
  | boolean (b : Bool)
  /-- A date, a time, or both, in their usual writing. -/
  | datetime (text : String)
  | array (items : List Value)
  | table (entries : List (String × Value))

/-- What stands under a key while a document is read. -/
inductive Node where
  /-- A value, which cannot be added to. -/
  | leaf (v : Value)
  /-- A table.  It is implicit as long as it came about by a path alone, and
  dotted if that path was a dotted key. -/
  | table (implicit dotted : Bool) (entries : List (String × Node))
  /-- A list of tables, which grows by headers. -/
  | tables (items : List (List (String × Node)))

/-- The entries of a table while a document is read. -/
abbrev Entries := List (String × Node)

mutual

/-- What has been read under a key, as a value. -/
def Node.toValue : Node → Value
  | .leaf v => v
  | .table _ _ entries => .table (valuesOf entries)
  | .tables items => .array (tablesOf items)

/-- The entries of a table as values. -/
def valuesOf : List (String × Node) → List (String × Value)
  | [] => []
  | (key, node) :: rest => (key, node.toValue) :: valuesOf rest

/-- The tables of a list as values. -/
def tablesOf : List (List (String × Node)) → List Value
  | [] => []
  | entries :: rest => .table (valuesOf entries) :: tablesOf rest

end

namespace Entries

/-- Change what stands under a key; a key that is not there is added at the
end. -/
def alter (key : String) (f : Option Node → Option Node) : Entries → Option Entries
  | [] => (f none).map fun node => [(key, node)]
  | (k, node) :: rest =>
      if k = key then
        (f (some node)).map fun node => (k, node) :: rest
      else
        (alter key f rest).map fun rest => (k, node) :: rest

/-- Follow a path through tables, the last table of each list of tables, and
tables that it creates, and edit the table at its end.  A dotted key passes
through no table that was written out.  The edit is told whether the table at
the end is dotted. -/
def follow (byDots : Bool) (edit : Bool → Entries → Option Entries) :
    List String → Bool → Entries → Option Entries
  | [], dotted, entries => edit dotted entries
  | key :: path, _, entries =>
      alter key
        (fun node? =>
          match node? with
          | none => (follow byDots edit path byDots []).map (.table true byDots)
          | some (.leaf _) => none
          | some (.tables items) =>
              match items.getLast? with
              | none => none
              | some last =>
                  (follow byDots edit path false last).map fun last =>
                    .tables (items.dropLast ++ [last])
          | some (.table implicit dotted inner) =>
              if byDots && !implicit then
                none
              else
                (follow byDots edit path dotted inner).map (.table implicit dotted))
        entries

/-- Add a value under a dotted key.  The key must be new, and a dotted table
can be added to by dotted keys only. -/
def addValue (path : List String) (key : String) (v : Value) (dotted : Bool) (entries : Entries) :
    Option Entries :=
  follow true
    (fun dotted entries =>
      if dotted == path.isEmpty then
        none
      else
        alter key (fun node? => if node?.isSome then none else some (.leaf v)) entries)
    path dotted entries

/-- Write out the table at a path: it must be new or implicit, and not
dotted. -/
def openTable (path : List String) (key : String) (entries : Entries) : Option Entries :=
  follow false
    (fun _ entries =>
      alter key
        (fun node? =>
          match node? with
          | none => some (.table false false [])
          | some (.table true false inner) => some (.table false false inner)
          | some _ => none)
        entries)
    path false entries

/-- Add a table to the list of tables at a path. -/
def appendTable (path : List String) (key : String) (entries : Entries) : Option Entries :=
  follow false
    (fun _ entries =>
      alter key
        (fun node? =>
          match node? with
          | none => some (.tables [[]])
          | some (.tables items) => some (.tables (items ++ [[]]))
          | some _ => none)
        entries)
    path false entries

end Entries

end FormRules.Toml
