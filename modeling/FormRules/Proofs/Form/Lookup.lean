import FormRules.Form.Registry
import FormRules.Proofs.Entries

/-!
# Looking up fields

A form holds at most one field under a key, and the key is the name of the field,
so a name finds a field exactly when the field is there under it.  Changing the
states of fields keeps their keys, names and chains, and the lookup for
cross-field checks sees nothing of a field but its value.
-/

namespace FormRules.Registry

attribute [ext] Registry

variable (r : Registry)

/-! ### Fields and their keys -/

/-- The entries of a form are its fields, each under its name. -/
theorem entries_eq : r.entries = r.controls.map fun c => (c.name, c) := by
  rw [controls, List.map_map]
  refine (List.map_id _).symm.trans (List.map_congr_left ?_)
  intro entry hentry
  exact Prod.ext (r.keyed entry hentry).symm rfl

/-- The keys are the names of the fields. -/
theorem fields_eq : r.fields = r.controls.map Control.name := by
  rw [fields, entries_eq, List.map_map]
  rfl

theorem nodup_names : (r.controls.map Control.name).Nodup := by
  rw [← fields_eq]
  exact r.distinct

theorem name_mem_fields {c : Control} (h : c ∈ r.controls) : c.name ∈ r.fields := by
  rw [fields_eq]
  exact List.mem_map_of_mem h

theorem mem_entries_iff {field : String} {c : Control} :
    (field, c) ∈ r.entries ↔ c ∈ r.controls ∧ c.name = field := by
  rw [entries_eq, List.mem_map]
  constructor
  · rintro ⟨c', hmem, hentry⟩
    obtain ⟨hname, rfl⟩ := Prod.mk.inj hentry
    exact ⟨hmem, hname⟩
  · rintro ⟨hmem, rfl⟩
    exact ⟨c, hmem, rfl⟩

/-- Forms with the same fields in one order differ in nothing but what stands
beside the fields. -/
theorem ext_controls {r r' : Registry} (hresolver : r.resolver = r'.resolver)
    (hmessages : r.messages = r'.messages) (hcontrols : r.controls = r'.controls)
    (hgeneration : r.generation = r'.generation) : r = r' := by
  refine Registry.ext hresolver hmessages ?_ hgeneration
  rw [r.entries_eq, r'.entries_eq, hcontrols]

/-- Two fields of a form with one name are one field. -/
theorem eq_of_name_eq {a b : Control} (ha : a ∈ r.controls) (hb : b ∈ r.controls)
    (h : a.name = b.name) : a = b :=
  List.inj_on_of_nodup_map r.nodup_names ha hb h

/-- A name finds the field that is declared under it. -/
theorem control?_eq_some_iff {field : String} {c : Control} :
    r.control? field = some c ↔ c ∈ r.controls ∧ c.name = field := by
  rw [control?, lookup_eq_lastOf r.distinct, lastOf_eq_some_iff_mem r.distinct, mem_entries_iff]

theorem control?_eq_none_iff {field : String} :
    r.control? field = none ↔ field ∉ r.fields := by
  rw [control?, lookup_eq_lastOf r.distinct, lastOf_eq_none_iff, fields]

/-- Every name of the form finds its field. -/
theorem exists_control?_of_mem {field : String} (h : field ∈ r.fields) :
    ∃ c, r.control? field = some c := by
  cases hc : r.control? field with
  | none => exact absurd h (r.control?_eq_none_iff.1 hc)
  | some c => exact ⟨c, rfl⟩

/-! ### Changes of states -/

@[simp] theorem messages_mapStates (f : Control → FieldState → FieldState) :
    (r.mapStates f).messages = r.messages := rfl

@[simp] theorem controls_mapStates (f : Control → FieldState → FieldState) :
    (r.mapStates f).controls = r.controls.map fun c => c.modify (f c) := by
  change List.map Prod.snd (r.entries.map fun entry => (entry.1, entry.2.modify (f entry.2))) = _
  rw [controls, List.map_map, List.map_map]
  rfl

@[simp] theorem fields_mapStates (f : Control → FieldState → FieldState) :
    (r.mapStates f).fields = r.fields := by
  change List.map Prod.fst (r.entries.map fun entry => (entry.1, entry.2.modify (f entry.2))) = _
  rw [fields, List.map_map]
  rfl

theorem mem_controls_mapStates {f : Control → FieldState → FieldState} {c : Control} :
    c ∈ (r.mapStates f).controls ↔ ∃ before ∈ r.controls, before.modify (f before) = c := by
  rw [controls_mapStates, List.mem_map]

/-- The field under a key is the one that has the key for a name. -/
theorem modify_eq_mapStates (field : String) (f : FieldState → FieldState) :
    r.modify field f = r.mapStates fun c state => if c.name = field then f state else state := by
  refine Registry.ext rfl rfl ?_ rfl
  apply List.map_congr_left
  rintro ⟨key, c⟩ hentry
  obtain rfl : c.name = key := r.keyed _ hentry
  by_cases hname : c.name = field
  · simp only [Control.modify, hname, if_true]
  · simp only [Control.modify, hname, if_false]

@[simp] theorem fields_modify (field : String) (f : FieldState → FieldState) :
    (r.modify field f).fields = r.fields := by
  rw [modify_eq_mapStates, fields_mapStates]

theorem control?_mapStates (f : Control → FieldState → FieldState) (field : String) :
    (r.mapStates f).control? field = (r.control? field).map fun c => c.modify (f c) := by
  apply Option.ext
  intro c
  rw [control?_eq_some_iff, mem_controls_mapStates, Option.map_eq_some_iff]
  constructor
  · rintro ⟨⟨before, hbefore, rfl⟩, hname⟩
    exact ⟨before, (r.control?_eq_some_iff).2 ⟨hbefore, hname⟩, rfl⟩
  · rintro ⟨before, hfound, rfl⟩
    obtain ⟨hbefore, hname⟩ := r.control?_eq_some_iff.1 hfound
    exact ⟨⟨before, hbefore, rfl⟩, hname⟩

theorem control?_modify_self {field : String} {c : Control} (h : r.control? field = some c)
    (f : FieldState → FieldState) : (r.modify field f).control? field = some (c.modify f) := by
  obtain ⟨-, hname⟩ := r.control?_eq_some_iff.1 h
  rw [modify_eq_mapStates, control?_mapStates, h]
  simp only [Option.map_some, hname, if_true]

/-- A change to one field is not seen at another. -/
theorem control?_modify_of_ne {field other : String} (h : other ≠ field)
    (f : FieldState → FieldState) : (r.modify field f).control? other = r.control? other := by
  rw [modify_eq_mapStates, control?_mapStates]
  cases hc : r.control? other with
  | none => rfl
  | some c =>
      obtain ⟨-, hname⟩ := r.control?_eq_some_iff.1 hc
      rw [← hname] at h
      simp only [Option.map_some, Control.modify, if_neg h]

/-- The form with the failures stored that a field of it has. -/
def storeFailures (c : Control) : Registry :=
  r.modify c.name (.setFailures (c.runValidators r.lookup))

/-- The form with the failures stored that all of its fields have. -/
def storeAllFailures : Registry :=
  r.mapStates fun c => .setFailures (c.runValidators r.lookup)

theorem control?_storeFailures {c : Control} (h : c ∈ r.controls) :
    (r.storeFailures c).control? c.name =
      some (c.modify (.setFailures (c.runValidators r.lookup))) :=
  r.control?_modify_self (r.control?_eq_some_iff.2 ⟨h, rfl⟩) _

/-- What a lookup gives for a field depends on its value only. -/
theorem item?_congr {r r' : Registry} {field : String}
    (h : (r.control? field).map (·.state.value) = (r'.control? field).map (·.state.value)) :
    r.item? field = r'.item? field := by
  unfold item?
  cases hc : r.control? field with
  | none =>
      cases hc' : r'.control? field with
      | none => rfl
      | some c' => simp [hc, hc'] at h
  | some c =>
      cases hc' : r'.control? field with
      | none => simp [hc, hc'] at h
      | some c' =>
          simp only [hc, hc', Option.map_some, Option.some.injEq] at h
          simp only [h]

/-- The value of a field is found unless the field has none. -/
theorem item?_eq_some_iff {field : String} {c : Control} {value : Value}
    (h : r.control? field = some c) :
    r.item? field = some value ↔ c.state.value = value ∧ value ≠ .null := by
  unfold item?
  simp only [h]
  generalize c.state.value = current
  cases current with
  | null =>
      constructor
      · intro hnone
        contradiction
      · rintro ⟨rfl, hvalue⟩
        contradiction
  | bool | number | text =>
      rw [Option.some.injEq]
      constructor
      · rintro rfl
        exact ⟨rfl, by simp⟩
      · exact And.left

/-- A change that keeps the value of a field is not seen by lookups of it. -/
theorem lookup_mapStates {f : Control → FieldState → FieldState} {field : String}
    (h : ∀ c ∈ r.controls, c.name = field → (f c c.state).value = c.state.value) :
    (r.mapStates f).lookup field = r.lookup field := by
  apply item?_congr
  rw [control?_mapStates]
  cases hc : r.control? field with
  | none => rfl
  | some c =>
      obtain ⟨hmem, hname⟩ := r.control?_eq_some_iff.1 hc
      simp [h c hmem hname]

/-- A change to one field is not seen by lookups of another. -/
theorem lookup_modify_of_ne {field other : String} (h : other ≠ field)
    (f : FieldState → FieldState) : (r.modify field f).lookup other = r.lookup other := by
  rw [modify_eq_mapStates]
  apply r.lookup_mapStates
  rintro c - hname
  rw [if_neg (by rw [hname]; exact h)]

/-- Lookups see no failures and no marks, so a change that keeps all values
keeps the lookup. -/
theorem lookup_mapStates_eq {f : Control → FieldState → FieldState}
    (h : ∀ c ∈ r.controls, (f c c.state).value = c.state.value) :
    (r.mapStates f).lookup = r.lookup := by
  funext field
  exact r.lookup_mapStates fun c hc _ => h c hc

/-- Storing failures does not change what lookups see. -/
theorem lookup_storeFailures {c : Control} : (r.storeFailures c).lookup = r.lookup := by
  rw [storeFailures, modify_eq_mapStates]
  apply lookup_mapStates_eq
  intro before _
  split <;> rfl

theorem lookup_storeAllFailures : r.storeAllFailures.lookup = r.lookup := by
  apply lookup_mapStates_eq
  intro before _
  rfl

theorem lookup_eq_none_of_notMem {field : String} (h : field ∉ r.fields) :
    r.lookup field = none := by
  unfold lookup item?
  rw [r.control?_eq_none_iff.2 h]

end FormRules.Registry
