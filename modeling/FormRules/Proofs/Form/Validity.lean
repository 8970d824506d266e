import FormRules.Proofs.Form.Run
import FormRules.Proofs.Form.States

/-!
# Ways to check a form

A form can be checked as a whole, field by field in any order, or without
storing anything.  The three ways agree, as no chain sees what an earlier check
has stored.
-/

namespace FormRules.Registry

/-- Check some fields, one after the other. -/
def validateEach (r : Registry) (order : List String) : Except RuleError Registry :=
  order.foldlM (fun r field => (r.validate field).accepted) r

variable {r : Registry} {field : String}

theorem validateEach_cons {c : Control} (h : r.control? field = some c) (order : List String) :
    r.validateEach (field :: order) = (r.storeFailures c).validateEach order := by
  rw [validateEach, List.foldlM_cons, validate_of_control? h]
  rfl

/-- Checks one after the other store what each of the fields gives on the form
as it was at the start. -/
theorem validateEach_eq_ok (order : List String) (h : ∀ field ∈ order, field ∈ r.fields) :
    r.validateEach order = .ok (r.mapStates fun c state =>
      if c.name ∈ order then state.setFailures (c.runValidators r.lookup) else state) := by
  induction order generalizing r with
  | nil =>
      rw [mapStates_eq_self]
      · rfl
      · intro c _
        rw [if_neg List.not_mem_nil]
  | cons field order ih =>
      obtain ⟨c, hc⟩ := r.exists_control?_of_mem (h field (by simp))
      obtain ⟨hmem, rfl⟩ := r.control?_eq_some_iff.1 hc
      have hdeclared : ∀ other ∈ order, other ∈ (r.storeFailures c).fields := by
        intro other hother
        rw [storeFailures, fields_modify]
        exact h other (List.mem_cons_of_mem _ hother)
      rw [validateEach_cons hc, ih hdeclared, lookup_storeFailures, storeFailures,
        modify_eq_mapStates, mapStates_mapStates]
      congr 1
      apply mapStates_congr
      intro before hbefore
      -- The field at the head may be checked again later, with the same result.
      by_cases hfield : before.name = c.name
      · obtain rfl := r.eq_of_name_eq hbefore hmem hfield
        simp only [Control.name_modify, if_true, List.mem_cons, true_or]
        split <;> rfl
      · simp only [Control.name_modify, List.mem_cons, hfield, false_or]
        rfl

/-- Checking each field once, in any order, is a check of all fields. -/
theorem validateEach_of_perm {order : List String} (h : order.Perm r.fields) :
    r.validateEach order = .ok r.storeAllFailures := by
  rw [validateEach_eq_ok order fun field hfield => h.mem_iff.1 hfield]
  congr 1
  apply mapStates_congr
  intro c hc
  rw [if_pos (h.mem_iff.2 (r.name_mem_fields hc))]

/-- The verdict of a check of all fields is about the failures that it stores. -/
theorem validateAll_eq_true_iff :
    r.validateAll.1 = true ↔ ∀ c ∈ r.validateAll.2.controls, c.state.failures = .empty := by
  rw [validateAll_eq, isValid, List.all_eq_true]
  simp only [FailureSet.isEmpty_iff, storeAllFailures, mem_controls_mapStates]
  constructor
  · rintro hpass _ ⟨c, hc, rfl⟩
    exact hpass c hc
  · intro hstored c hc
    exact hstored _ ⟨c, hc, rfl⟩

/-- A check of all fields finds nothing new when it is made twice. -/
theorem validateAll_validateAll : r.validateAll.2.validateAll = r.validateAll := by
  have hvalid : r.storeAllFailures.isValid = r.isValid := by
    rw [isValid, lookup_storeAllFailures, storeAllFailures, controls_mapStates, List.all_map]
    rfl
  have hsame : r.storeAllFailures.storeAllFailures = r.storeAllFailures :=
    storeAllFailures_congr withoutFailures_storeAllFailures
  rw [validateAll_eq r, validateAll_eq, hvalid, hsame]

/-- A call on a field that is not declared is refused. -/
theorem step_of_undeclared (h : field ∉ r.fields) :
    (∀ value, r.step (.setValue field value) = (.refused (.unknownField field), r)) ∧
      r.step (.validate field) = (.refused (.unknownField field), r) ∧
      r.step (.markTouched field) = (.refused (.unknownField field), r) := by
  have hnone := r.control?_eq_none_iff.2 h
  simp only [step, setValue, validate, markTouched, hnone, Reply.conclude, implies_true, and_self]

/-- The ways to check a form agree, whatever failures it holds before.  A check
of all fields changes failures only and is as good as two of them, as looking
whether the form is valid, and as checks of the single fields in any order.  A
check of one field stores the failures of that field and answers them, and a
field that is not declared can be neither checked, nor written, nor touched. -/
theorem checks_agree (r : Registry) :
    r.isValid = r.validateAll.1 ∧
    (r.validateAll.1 = true ↔ ∀ c ∈ r.validateAll.2.controls, c.state.failures = .empty) ∧
    r.validateAll.2.withoutFailures = r.withoutFailures ∧
    r.validateAll.2.validateAll = r.validateAll ∧
    (∀ order : List String, order.Perm r.fields → r.validateEach order = .ok r.validateAll.2) ∧
    (∀ field ∈ r.fields, ∃ failures after, r.validate field = ⟨.ok failures, after⟩ ∧
      after.withoutFailures = r.withoutFailures ∧
      (after.control? field).map (·.state.failures) = some failures ∧
      ∀ other, other ≠ field → after.control? other = r.control? other) ∧
    ∀ field, field ∉ r.fields →
      (∀ value, r.step (.setValue field value) = (.refused (.unknownField field), r)) ∧
      r.step (.validate field) = (.refused (.unknownField field), r) ∧
      r.step (.markTouched field) = (.refused (.unknownField field), r) := by
  have hstored : r.validateAll.2 = r.storeAllFailures := by rw [validateAll_eq]
  refine ⟨by rw [validateAll_eq], validateAll_eq_true_iff, ?_, validateAll_validateAll, ?_, ?_, ?_⟩
  · rw [hstored]
    exact withoutFailures_storeAllFailures
  · intro order h
    rw [hstored]
    exact validateEach_of_perm h
  · intro field hfield
    obtain ⟨c, hc⟩ := r.exists_control?_of_mem hfield
    obtain ⟨hmem, hname⟩ := r.control?_eq_some_iff.1 hc
    refine ⟨_, _, validate_of_control? hc, ?_, ?_, ?_⟩
    · exact withoutFailures_storeFailures c
    · rw [← hname, r.control?_storeFailures hmem]
      rfl
    · intro other hne
      exact r.control?_modify_of_ne (hname ▸ hne) _
  · intro field hfield
    exact step_of_undeclared hfield

end FormRules.Registry
