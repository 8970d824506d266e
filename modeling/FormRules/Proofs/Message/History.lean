import FormRules.Form.Definition
import FormRules.Proofs.Afresh
import FormRules.Proofs.Message

/-!
# Histories of message tables

A table is made from a source and edited: a text is set, another table is added,
or the table is replaced by what a source has.  Every edit is a row of writes, and
a replacement makes the writes before it void.  So the table is the one of the
writes since the last replacement, whatever the edits were that made them.
-/

namespace FormRules.MessageTable

/-- Where a table is made from. -/
inductive Source where
  /-- Nothing: the table has no texts. -/
  | new
  /-- The default texts. -/
  | defaults
  | given (pairs : List (Code × String))
  /-- A text that should be a document of texts. -/
  | document (text : String)

/-- The table of a source, if there is one. -/
def Source.table? : Source → Option MessageTable
  | new => some .empty
  | defaults => some .defaults
  | given pairs => some (.ofPairs pairs)
  | document text => (read text).toOption

/-- The writes that make the table of a source: pairs as they are given, and one
write for each text of any other table. -/
def Source.writes : Source → List (Code × String)
  | given pairs => pairs
  | source => source.table?.elim [] entries

/-- An edit of a table. -/
inductive Edit where
  | set (code : Code) (text : String)
  | extend (other : MessageTable)
  | replace (source : Source)

namespace Edit

/-- Does the edit make the table anew?  A source without a table does not. -/
def replaces : Edit → Bool
  | replace source => source.table?.isSome
  | _ => false

/-- The writes of an edit, one for each text of a table that is added. -/
def writes : Edit → List (Code × String)
  | set code text => [(code, text)]
  | extend other => other.entries
  | replace source => source.writes

end Edit

/-- The table after an edit.  It is kept when it was to be replaced and the source
has no table. -/
def edit (t : MessageTable) : Edit → MessageTable
  | .set code text => t.set code text
  | .extend other => t.extend other
  | .replace source => source.table?.getD t

/-- The table after some edits; at the start there are no texts. -/
def afterEdits (edits : List Edit) : MessageTable := edits.foldl edit .empty

/-- The writes since the last edit that has replaced the table, with the writes of
that edit. -/
def recentWrites (edits : List Edit) : List (Code × String) :=
  sinceFresh Edit.replaces Edit.writes edits

/-- The writes of a source make its table. -/
theorem ofPairs_writes_of_source {source : Source} {t : MessageTable}
    (h : source.table? = some t) : ofPairs source.writes = t := by
  cases source with
  | given pairs => exact Option.some.inj h
  | new | defaults | document text =>
      rw [Source.writes, h]
      · exact t.ofPairs_entries
      · exact nofun

/-- Without a table a source has no writes. -/
theorem writes_eq_nil {source : Source} (h : source.table? = none) : source.writes = [] := by
  cases source with
  | new | defaults | given => simp [Source.table?] at h
  | document text =>
      rw [Source.writes, h]
      · rfl
      · exact nofun

/-- An edit that replaces the table leaves the table of its writes. -/
theorem edit_of_replaces {change : Edit} (h : change.replaces = true) (t : MessageTable) :
    t.edit change = ofPairs change.writes := by
  cases change with
  | set | extend => contradiction
  | replace source =>
      obtain ⟨made, hmade⟩ := Option.isSome_iff_exists.1 h
      rw [edit, Edit.writes, hmade, ofPairs_writes_of_source hmade, Option.getD_some]

/-- Any other edit writes to the table that is there. -/
theorem edit_of_not_replaces {change : Edit} (h : change.replaces = false) (t : MessageTable) :
    t.edit change = change.writes.foldl (fun t pair => t.set pair.1 pair.2) t := by
  cases change with
  | set code text => rfl
  | extend other => rfl
  | replace source =>
      have hnone : source.table? = none := by simpa [Edit.replaces] using h
      rw [edit, Edit.writes, hnone, writes_eq_nil hnone, Option.getD_none, List.foldl_nil]

/-- Edits leave the table of the writes since the last replacement. -/
theorem afterEdits_eq_ofPairs (edits : List Edit) :
    afterEdits edits = ofPairs (recentWrites edits) := by
  refine foldl_eq_made_sinceFresh ofPairs (fun t change h => edit_of_replaces h t) ?_ edits
  intro writes change h
  rw [edit_of_not_replaces h, ofPairs, ofPairs, List.foldl_append]

/-- A code has the text of the last write for it since the last replacement. -/
theorem get?_afterEdits (edits : List Edit) (code : Code) :
    (afterEdits edits).get? code = lastOf (recentWrites edits) code := by
  rw [afterEdits_eq_ofPairs, get?_ofPairs]

/-- There are as many texts as different codes have been written since the last
replacement. -/
theorem size_afterEdits (edits : List Edit) :
    (afterEdits edits).size = ((recentWrites edits).map Prod.fst).toFinset.card := by
  rw [afterEdits_eq_ofPairs, size_ofPairs]

/-! ### Extensions -/

theorem extend_assoc (a b c : MessageTable) :
    ((a.extend b).extend c == a.extend (b.extend c)) = true := by
  rw [beq_iff]
  intro code
  rw [get?_extend, get?_extend, get?_extend, get?_extend, Option.or_assoc]

theorem empty_extend (t : MessageTable) : (empty.extend t == t) = true := by
  rw [beq_iff]
  intro code
  rw [get?_extend, get?_empty, Option.or_none]

theorem extend_empty (t : MessageTable) : (t.extend empty == t) = true := by
  rw [beq_iff]
  intro code
  rw [get?_extend, get?_empty, Option.none_or]

end FormRules.MessageTable
