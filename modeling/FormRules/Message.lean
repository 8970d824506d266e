import FormRules.Failure

/-!
# Message tables

A message table maps failure codes to texts.  A code without a text in the
table, and without one among the caller's own texts, is shown by a fallback.
-/

namespace FormRules

/-- Texts by failure code; every code occurs once. -/
structure MessageTable where
  entries : List (Code × String)
  nodup : (entries.map Prod.fst).Nodup := by simp

namespace MessageTable

/-- The table without texts. -/
def empty : MessageTable := ⟨[], List.nodup_nil⟩

instance : Inhabited MessageTable := ⟨empty⟩

/-- The text of a code. -/
def get? (t : MessageTable) (code : Code) : Option String :=
  t.entries.lookup code

/-- Replace the text of a code that has one. -/
def replace (code : Code) (text : String) (entries : List (Code × String)) :
    List (Code × String) :=
  entries.map fun entry => if entry.1 = code then (entry.1, text) else entry

theorem map_fst_replace (code : Code) (text : String) (entries : List (Code × String)) :
    (replace code text entries).map Prod.fst = entries.map Prod.fst := by
  simp only [replace, List.map_map]
  apply List.map_congr_left
  intro entry _
  simp only [Function.comp]
  split <;> rfl

/-- Give a code a text, in place of the one it has. -/
def set (t : MessageTable) (code : Code) (text : String) : MessageTable :=
  if h : code ∈ t.entries.map Prod.fst then
    ⟨replace code text t.entries, by rw [map_fst_replace]; exact t.nodup⟩
  else
    ⟨t.entries ++ [(code, text)], by
      rw [List.map_append, List.nodup_append]
      refine ⟨t.nodup, by simp, ?_⟩
      intro a ha b hb
      simp only [List.map_cons, List.map_nil, List.mem_singleton] at hb
      rintro rfl
      exact h (hb ▸ ha)⟩

/-- The table of some pairs; of several texts for one code the last counts. -/
def ofPairs (pairs : List (Code × String)) : MessageTable :=
  pairs.foldl (fun t pair => t.set pair.1 pair.2) empty

/-- Add the texts of another table; where both have a text, the other's
counts. -/
def extend (t other : MessageTable) : MessageTable :=
  other.entries.foldl (fun t pair => t.set pair.1 pair.2) t

/-- The number of codes that have a text. -/
def size (t : MessageTable) : Nat := t.entries.length

/-- Has no code a text? -/
def isEmpty (t : MessageTable) : Bool := t.entries.isEmpty

/-- Two tables are the same when they give the same codes the same texts, in
whatever order. -/
def same (a b : MessageTable) : Bool :=
  a.size == b.size && a.entries.all fun entry => b.get? entry.1 == some entry.2

instance : BEq MessageTable := ⟨same⟩

/-- The texts for the codes of the standard and the custom rules. -/
def defaults : MessageTable := ofPairs [
  ("required", "This field is required"),
  ("minlength", "This field is too short"),
  ("maxlength", "This field is longer than allowed"),
  ("matches", "This field must match the other field"),
  ("valid_email", "The e-mail address is not valid"),
  ("valid_facebook", "The Facebook URL is not valid"),
  ("requiredtrue", "This field must be checked"),
  ("email", "The e-mail address is not valid"),
  ("min", "The value is below the minimum"),
  ("max", "The value is above the maximum"),
  ("pattern", "The value has an invalid format")]

/-- The text for a code that has none. -/
def fallback (code : Code) : String :=
  "No message found for error " ++ code

/-- The caller's own text for a code, if there is one. -/
def override? (overrides : Option MessageTable) (code : Code) : Option String :=
  overrides.bind fun own => own.get? code

/-- The text to show for a code: the caller's own, else the table's, else the
fallback. -/
def resolve (t : MessageTable) (overrides : Option MessageTable) (code : Code) : String :=
  match override? overrides code with
  | some text => text
  | none => (t.get? code).getD (fallback code)

/-- The texts to show for some failures, in their order. -/
def resolveAll (t : MessageTable) (overrides : Option MessageTable) (failures : FailureSet) :
    List String :=
  failures.codes.map (t.resolve overrides)

@[simp] theorem get?_empty (code : Code) : empty.get? code = none := rfl

end MessageTable

end FormRules
