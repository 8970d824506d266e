import FormRules.Proofs.Form.Freshness
import FormRules.Proofs.Rule.Order

/-!
# Failures that are stored

A form stores failures when it checks a field, and it clears them when the field
is declared anew or reset.  So the failures that are stored were once given by
the chain of the field, on a value and fields that may have changed since.  Hence
they come in the order of the chain also where they are stale.
-/

namespace FormRules

/-- The stored failures are none, or those that the chain of the field gave on some
value among some fields. -/
def Control.Recorded (c : Control) : Prop :=
  c.state.failures = .empty ∨
    ∃ value fields, c.state.failures = runChain c.validators value fields

/-- A chain of standard validators gave the stored failures in its own order. -/
theorem Control.Recorded.sublist {c : Control} (h : c.Recorded) (hstandard : c.Standard) :
    c.state.failures.codes.Sublist (c.validators.map Validator.rule) := by
  rcases h with hnone | ⟨value, fields, hgiven⟩
  · rw [hnone]
    exact List.nil_sublist _
  · rw [hgiven]
    exact (firstFailures_runChain hstandard value fields).sublist

namespace Registry

/-- All stored failures were given by the chains of their fields. -/
def Recorded (r : Registry) : Prop :=
  ∀ c ∈ r.controls, c.Recorded

section

variable {r after : Registry} {c : Control} {f : Control → FieldState → FieldState}

/-- A change may keep the failures of a field, or leave it with failures that its
chain gave. -/
theorem recorded_mapStates (h : r.Recorded)
    (hf : ∀ c ∈ r.controls,
      (f c c.state).failures = c.state.failures ∨ (c.modify (f c)).Recorded) :
    (r.mapStates f).Recorded := by
  intro c hc
  obtain ⟨before, hbefore, rfl⟩ := r.mem_controls_mapStates.1 hc
  rcases hf before hbefore with hkept | hstored
  · unfold Control.Recorded
    rw [Control.state_modify, hkept]
    exact h before hbefore
  · exact hstored

theorem recorded_modify (h : r.Recorded) (field : String) {g : FieldState → FieldState}
    (hg : ∀ state, (g state).failures = state.failures) : (r.modify field g).Recorded := by
  rw [modify_eq_mapStates]
  apply recorded_mapStates h
  intro c _
  left
  split
  · exact hg c.state
  · rfl

/-- A check of one field stores what its chain gives. -/
theorem recorded_storeFailures (h : r.Recorded) (hc : c ∈ r.controls) :
    (r.storeFailures c).Recorded := by
  rw [storeFailures, modify_eq_mapStates]
  apply recorded_mapStates h
  intro other hother
  by_cases hname : other.name = c.name
  · obtain rfl : other = c := r.eq_of_name_eq hother hc hname
    exact .inr (.inr ⟨other.state.value, r.lookup, by simp only [if_true]; rfl⟩)
  · exact .inl (by simp only [if_neg hname])

/-- A check of all fields stores what their chains give, whatever was stored
before. -/
theorem recorded_storeAllFailures (r : Registry) : r.storeAllFailures.Recorded := by
  intro c hc
  obtain ⟨before, -, rfl⟩ := r.mem_controls_mapStates.1 hc
  exact .inr ⟨before.state.value, r.lookup, rfl⟩

/-- Every transition stores failures that the chains give. -/
theorem recorded_transition (ht : r.Transition after) (h : r.Recorded) : after.Recorded := by
  cases ht with
  | stay => exact h
  | installed hinstall messages =>
      intro c hc
      obtain ⟨spec, -, hdeclares⟩ := declares_of_install hinstall hc
      exact .inl hdeclares.passing
  | relabelled messages => exact h
  | checked hc => exact recorded_storeFailures h hc
  | @written field value c hc hname =>
      have hwritten : (r.modify field (.setValue value)).Recorded :=
        recorded_modify h field fun _ => rfl
      exact recorded_storeFailures hwritten hc
  | patched writes => exact recorded_storeAllFailures _
  | checkedAll => exact recorded_storeAllFailures r
  | touched field => exact recorded_modify h field fun _ => rfl
  | touchedAll =>
      apply recorded_mapStates h
      intro c _
      exact .inl rfl
  | cleared =>
      apply recorded_mapStates h
      intro c _
      exact .inr (.inl rfl)

end

/-- Whatever calls are made on a form, its chains have given the failures that it
stores. -/
theorem recorded_run (factory : Factory) (messages : MessageTable) (actions : List Action) :
    ((create factory messages).run actions).Recorded :=
  run_induction (fun _ _ => recorded_transition) _ actions
    fun _ hc => absurd hc List.not_mem_nil

/-- **Failures are in order.**  A field with a chain of the standard rules fails with
the names of its validators that fail, each once, by the position of the first
failure of each.  And after any run of calls on a form with the standard rules,
the failures that its fields store are names of their own chains, each once, in
the order of the chain. -/
theorem failures_in_order :
    (∀ rules (c : Control), Resolver.standard.compile rules = .ok c.validators →
      ∀ fields,
        (c.runValidators fields).codes.Nodup ∧
          FirstFailures c.validators c.state.value fields (c.runValidators fields).codes) ∧
      ∀ messages actions,
        let r := (create .standard messages).run actions
        ∀ c ∈ r.controls,
          c.state.failures.codes.Nodup ∧
            c.state.failures.codes.Sublist (c.validators.map Validator.rule) := by
  refine ⟨?_, ?_⟩
  · intro rules c hchain fields
    have hfirst := firstFailures_runChain (Resolver.standard_of_compile hchain)
      c.state.value fields
    exact ⟨hfirst.nodup, hfirst⟩
  · intro messages actions r c hc
    have hcoherent : r.Coherent :=
      run_induction (fun _ _ ht h => coherent_transition ht h) _ actions
        (coherent_create messages)
    have hrecorded : c.Recorded := recorded_run .standard messages actions c hc
    exact ⟨c.state.failures.nodup, hrecorded.sublist (hcoherent.standard c hc)⟩

/-- A name that stands first in the chain comes last when its first validator passes
and a later one fails, both when the chain is run and when the form stores what it
gives. -/
theorem failures_in_order_of_lengths :
    let rules := some "minlength[2]|maxlength[1]|minlength[5]"
    (∃ c : Control, Resolver.standard.compile rules = .ok c.validators ∧
      FirstFailures c.validators (.text "abc") noFields ["maxlength", "minlength"]) ∧
    ∃ c ∈ (new.run [.install [⟨"name", rules⟩], .setValue "name" (.text "abc")]).controls,
      c.state.failures.codes = ["maxlength", "minlength"] ∧
        ["maxlength", "minlength"].Sublist (c.validators.map Validator.rule) := by
  intro rules
  constructor
  · obtain ⟨chain, hchain, hcodes⟩ : ∃ chain, Resolver.standard.compile rules = .ok chain ∧
        (runChain chain (.text "abc") noFields).codes = ["maxlength", "minlength"] :=
      ⟨_, rfl, rfl⟩
    let c : Control := ⟨"name", chain, .setValue (.text "abc") .fresh⟩
    have hfirst := (failures_in_order.1 rules c hchain noFields).2
    have hsame : (c.runValidators noFields).codes = ["maxlength", "minlength"] := hcodes
    rw [hsame] at hfirst
    exact ⟨c, hchain, hfirst⟩
  · have hstored : ((new.run [.install [⟨"name", rules⟩],
        .setValue "name" (.text "abc")]).control? "name").map (·.state.failures.codes) =
          some ["maxlength", "minlength"] := rfl
    obtain ⟨c, hc, hcodes⟩ := Option.map_eq_some_iff.1 hstored
    have hmem := ((control?_eq_some_iff _).1 hc).1
    have horder := (failures_in_order.2 .defaults _ c hmem).2
    rw [hcodes] at horder
    exact ⟨c, hmem, hcodes, horder⟩

end Registry

end FormRules
