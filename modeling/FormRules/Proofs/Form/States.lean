import FormRules.Proofs.Form.Lookup

/-!
# Changing the states of fields

A change of states is known by what it does to the fields that a form has, and
two changes in a row are one change.  No chain sees the failures that are
stored, so a check of all fields gives the same form from any two forms that
differ in their failures only.
-/

namespace FormRules.Registry

/-- The form without the failures that are stored in it. -/
def withoutFailures (r : Registry) : Registry :=
  r.mapStates fun _ => .setFailures .empty

section

variable {r r' : Registry} {f g : Control → FieldState → FieldState}

theorem mapStates_congr (h : ∀ c ∈ r.controls, f c c.state = g c c.state) :
    r.mapStates f = r.mapStates g := by
  have hcontrols : (r.mapStates f).controls = (r.mapStates g).controls := by
    rw [controls_mapStates, controls_mapStates]
    apply List.map_congr_left
    intro c hc
    simp only [Control.modify, h c hc]
  exact ext_controls rfl rfl hcontrols rfl

/-- A change that keeps the state of every field keeps the form. -/
theorem mapStates_eq_self (h : ∀ c ∈ r.controls, f c c.state = c.state) :
    r.mapStates f = r := by
  have hsame : ∀ c ∈ r.controls, c.modify (f c) = id c := by
    intro c hc
    simp only [Control.modify, h c hc, id]
  have hcontrols : (r.mapStates f).controls = r.controls := by
    rw [controls_mapStates, List.map_congr_left hsame, List.map_id]
  exact ext_controls rfl rfl hcontrols rfl

/-- Two changes in a row are one change. -/
theorem mapStates_mapStates (r : Registry) (f g : Control → FieldState → FieldState) :
    (r.mapStates f).mapStates g =
      r.mapStates fun c state => g (c.modify (f c)) (f c state) := by
  have hcontrols : ((r.mapStates f).mapStates g).controls =
      (r.mapStates fun c state => g (c.modify (f c)) (f c state)).controls := by
    simp only [controls_mapStates, List.map_map]
    rfl
  exact ext_controls rfl rfl hcontrols rfl

/-- A change of nothing but failures is not seen without them. -/
theorem withoutFailures_mapStates
    (h : ∀ c ∈ r.controls, (f c c.state).setFailures .empty = c.state.setFailures .empty) :
    (r.mapStates f).withoutFailures = r.withoutFailures := by
  rw [withoutFailures, mapStates_mapStates]
  exact mapStates_congr h

theorem withoutFailures_storeFailures (c : Control) :
    (r.storeFailures c).withoutFailures = r.withoutFailures := by
  rw [storeFailures, modify_eq_mapStates]
  apply withoutFailures_mapStates
  intro before _
  split <;> rfl

theorem withoutFailures_storeAllFailures :
    r.storeAllFailures.withoutFailures = r.withoutFailures := by
  apply withoutFailures_mapStates
  intro before _
  rfl

theorem lookup_withoutFailures : r.withoutFailures.lookup = r.lookup := by
  apply lookup_mapStates_eq
  intro before _
  rfl

/-- A check of all fields does not depend on the failures stored before. -/
theorem storeAllFailures_withoutFailures :
    r.withoutFailures.storeAllFailures = r.storeAllFailures := by
  unfold storeAllFailures
  rw [lookup_withoutFailures, withoutFailures, mapStates_mapStates]
  rfl

/-- Forms that differ in their failures only are the same after a check of all
fields. -/
theorem storeAllFailures_congr (h : r.withoutFailures = r'.withoutFailures) :
    r.storeAllFailures = r'.storeAllFailures := by
  rw [← storeAllFailures_withoutFailures, h, storeAllFailures_withoutFailures]

end

end FormRules.Registry
