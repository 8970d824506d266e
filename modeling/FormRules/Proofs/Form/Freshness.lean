import FormRules.Proofs.Form.Install
import FormRules.Proofs.Form.Writes

/-!
# Freshness of stored failures

A field is fresh when the failures stored in it are those that its chain gives
now.  A chain sees the value of its own field and of the fields that it agrees
with, and the forms here have the standard rules.  After every run of calls, the
fields that agree with no other field of the form are fresh, or they have not
been written and have no failures.  A check of all fields makes all of them
fresh.
-/

namespace FormRules

namespace Control

/-- The stored failures are those that the chain gives now. -/
def IsFresh (r : Registry) (c : Control) : Prop :=
  c.state.failures = c.runValidators r.lookup

/-- The chain requires that the field agrees with the named one. -/
def Consults (c : Control) (other : String) : Prop :=
  CustomRule.agreesWith other ∈ c.validators

/-- The field agrees with no other field of the form. -/
def Independent (r : Registry) (c : Control) : Prop :=
  ∀ other ∈ r.fields, other ≠ c.name → ¬ c.Consults other

/-- The field is fresh, or it has not been written and has no failures. -/
def Settled (r : Registry) (c : Control) : Prop :=
  c.IsFresh r ∨ c.state.dirty = false ∧ c.state.failures = .empty

/-- All validators of the chain are of the standard rules. -/
def Standard (c : Control) : Prop :=
  ∀ v ∈ c.validators, v.Standard

variable {r r' : Registry} {c : Control}

/-- A chain of the standard rules gives the same failures when the fields that
it agrees with look the same. -/
theorem runValidators_congr (h : c.Standard)
    (hlookup : ∀ other, c.Consults other → r.lookup other = r'.lookup other) :
    c.runValidators r.lookup = c.runValidators r'.lookup :=
  runChain_congr h hlookup c.state.value

theorem isFresh_congr (h : c.Standard)
    (hlookup : ∀ other, c.Consults other → r.lookup other = r'.lookup other) :
    c.IsFresh r ↔ c.IsFresh r' := by
  unfold IsFresh
  rw [runValidators_congr h hlookup]

@[simp] theorem independent_mapStates (f : Control → FieldState → FieldState) :
    c.Independent (r.mapStates f) ↔ c.Independent r := by
  unfold Independent
  rw [Registry.fields_mapStates]

@[simp] theorem independent_modify (field : String) (f : FieldState → FieldState) :
    c.Independent (r.modify field f) ↔ c.Independent r := by
  unfold Independent
  rw [Registry.fields_modify]

end Control

namespace Registry

/-- The form resolves the standard rules, and its chains are made of them. -/
structure HasStandardRules (r : Registry) : Prop where
  resolver : r.resolver = .standard
  standard : ∀ c ∈ r.controls, c.Standard

/-- The rules are the standard ones, and the fields that agree with no other
field are settled. -/
structure Coherent (r : Registry) : Prop extends HasStandardRules r where
  settled : ∀ c ∈ r.controls, c.Independent r → c.Settled r

section

variable {r : Registry} {field : String} {f : FieldState → FieldState} {c : Control}

/-- A change to one field leaves the others as they are. -/
theorem mem_controls_modify_of_ne (h : c.name ≠ field) :
    c ∈ (r.modify field f).controls ↔ c ∈ r.controls := by
  have hsame : ∀ before : Control, before.name ≠ field →
      before.modify (fun state => if before.name = field then f state else state) = before := by
    intro before hbefore
    simp only [Control.modify, if_neg hbefore]
  rw [modify_eq_mapStates, mem_controls_mapStates]
  constructor
  · rintro ⟨before, hmem, rfl⟩
    rw [Control.name_modify] at h
    rwa [hsame before h]
  · intro hmem
    exact ⟨c, hmem, hsame c h⟩

/-- A change to one field can make another one stale only if the other one
agrees with it. -/
theorem consults_of_not_isFresh_modify (hstandard : c.Standard) (hbefore : c.IsFresh r)
    (hafter : ¬ c.IsFresh (r.modify field f)) : c.Consults field := by
  by_contra hconsults
  apply hafter
  rw [← Control.isFresh_congr hstandard (r := r)]
  · exact hbefore
  · intro other hother
    have hne : other ≠ field := by
      rintro rfl
      exact hconsults hother
    exact (r.lookup_modify_of_ne hne f).symm

/-- A field that agrees with no other field is not affected by a change to one
of them. -/
theorem settled_modify_of_ne (hstandard : c.Standard) (hindependent : c.Independent r)
    (h : c.name ≠ field) (hsettled : c.Settled r) : c.Settled (r.modify field f) := by
  have hlookup : ∀ other, c.Consults other →
      r.lookup other = (r.modify field f).lookup other := by
    intro other hother
    by_cases hfield : other = field
    · -- The chain agrees with the field that is changed, so that field is not declared.
      have hundeclared : other ∉ r.fields := by
        intro hmem
        exact hindependent other hmem (by rw [hfield]; exact h.symm) hother
      have hafter : other ∉ (r.modify field f).fields := by
        rwa [fields_modify]
      rw [lookup_eq_none_of_notMem _ hundeclared, lookup_eq_none_of_notMem _ hafter]
    · exact (r.lookup_modify_of_ne hfield f).symm
  exact hsettled.imp_left (Control.isFresh_congr hstandard hlookup).1

/-- Storing the failures of a field makes it fresh. -/
theorem isFresh_storeFailures {after : Control} (hc : c ∈ r.controls)
    (hafter : after ∈ (r.storeFailures c).controls) (hname : after.name = c.name) :
    after.IsFresh (r.storeFailures c) := by
  have hstored := r.control?_storeFailures hc
  obtain rfl := Option.some.inj (((control?_eq_some_iff _).2 ⟨hafter, hname⟩).symm.trans hstored)
  unfold Control.IsFresh
  rw [lookup_storeFailures]
  rfl

/-- A check of all fields makes all of them fresh. -/
theorem isFresh_storeAllFailures (hc : c ∈ r.storeAllFailures.controls) :
    c.IsFresh r.storeAllFailures := by
  obtain ⟨before, -, rfl⟩ := (mem_controls_mapStates r).1 hc
  unfold Control.IsFresh
  rw [lookup_storeAllFailures]
  rfl

theorem hasStandardRules_mapStates {g : Control → FieldState → FieldState}
    (h : r.HasStandardRules) : (r.mapStates g).HasStandardRules where
  resolver := h.resolver
  standard := by
    intro c hc
    obtain ⟨before, hbefore, rfl⟩ := (mem_controls_mapStates r).1 hc
    exact h.standard before hbefore

theorem hasStandardRules_modify (h : r.HasStandardRules) (field : String)
    (f : FieldState → FieldState) : (r.modify field f).HasStandardRules := by
  rw [modify_eq_mapStates]
  exact hasStandardRules_mapStates h

theorem hasStandardRules_writeAll (h : r.HasStandardRules) (writes : List (String × Value)) :
    (r.writeAll writes).HasStandardRules := by
  rw [writeAll_eq_mapStates]
  exact hasStandardRules_mapStates h

/-- A change of states keeps a form coherent if it keeps the fields settled
that agree with no other field. -/
theorem coherent_mapStates {g : Control → FieldState → FieldState} (h : r.Coherent)
    (hsettled : ∀ c ∈ r.controls, c.Independent r → c.Settled r →
      (c.modify (g c)).Settled (r.mapStates g)) : (r.mapStates g).Coherent where
  toHasStandardRules := hasStandardRules_mapStates h.toHasStandardRules
  settled := by
    intro c hc hindependent
    obtain ⟨before, hbefore, rfl⟩ := (mem_controls_mapStates r).1 hc
    rw [Control.independent_mapStates] at hindependent
    exact hsettled before hbefore hindependent (h.settled before hbefore hindependent)

/-- Marks are not seen by any chain. -/
theorem coherent_mapStates_of_marks {g : Control → FieldState → FieldState} (h : r.Coherent)
    (hvalue : ∀ c state, (g c state).value = state.value)
    (hdirty : ∀ c state, (g c state).dirty = state.dirty)
    (hfailures : ∀ c state, (g c state).failures = state.failures) :
    (r.mapStates g).Coherent := by
  apply coherent_mapStates h
  intro c _ _ hsettled
  have hlookup : (r.mapStates g).lookup = r.lookup :=
    r.lookup_mapStates_eq fun c _ => hvalue c c.state
  unfold Control.Settled Control.IsFresh Control.runValidators at hsettled ⊢
  rwa [hlookup, Control.state_modify, Control.validators_modify, hvalue, hdirty, hfailures]

/-- A form is coherent after an installation, as its fields are not written and
have no failures. -/
theorem coherent_install {specs : List RuleSpec} {after : Registry} (h : r.HasStandardRules)
    (hinstall : r.install specs = ⟨.ok after.entries, after⟩) : after.Coherent := by
  obtain ⟨-, -, -, hresolver⟩ := install_eq_ok hinstall
  constructor
  · constructor
    · rw [hresolver, h.resolver]
    · intro c hc
      obtain ⟨spec, -, hdeclares⟩ := declares_of_install hinstall hc
      have hchain := hdeclares.chain
      rw [h.resolver] at hchain
      exact Resolver.standard_of_compile hchain
  · intro c hc _
    obtain ⟨spec, -, hdeclares⟩ := declares_of_install hinstall hc
    exact .inr ⟨hdeclares.pristine, hdeclares.passing⟩

/-- A check of one field makes a form coherent if the other fields are as they
should be. -/
theorem coherent_storeFailures_of_others (h : r.HasStandardRules) (hc : c ∈ r.controls)
    (hothers : ∀ other ∈ r.controls, other.name ≠ c.name → other.Independent r →
      other.Settled r) : (r.storeFailures c).Coherent where
  toHasStandardRules := hasStandardRules_modify h _ _
  settled := by
    intro other hother hindependent
    -- The field that is checked becomes fresh; no other one is affected.
    by_cases hname : other.name = c.name
    · exact .inl (isFresh_storeFailures hc hother hname)
    · have hbefore := (mem_controls_modify_of_ne hname).1 hother
      have hindependent' : other.Independent r :=
        (Control.independent_modify _ _).1 hindependent
      exact settled_modify_of_ne (h.standard other hbefore) hindependent' hname
        (hothers other hbefore hname hindependent')

theorem coherent_storeFailures (h : r.Coherent) (hc : c ∈ r.controls) :
    (r.storeFailures c).Coherent :=
  coherent_storeFailures_of_others h.toHasStandardRules hc fun other hother _ =>
    h.settled other hother

/-- A change to a field is made good by storing the failures of that field. -/
theorem coherent_storeFailures_modify (h : r.Coherent)
    (hc : c ∈ (r.modify field f).controls) (hname : c.name = field) :
    ((r.modify field f).storeFailures c).Coherent := by
  apply coherent_storeFailures_of_others (hasStandardRules_modify h.toHasStandardRules _ _) hc
  intro other hother hne hindependent
  rw [hname] at hne
  have hbefore := (mem_controls_modify_of_ne hne).1 hother
  have hindependent' : other.Independent r := (Control.independent_modify _ _).1 hindependent
  exact settled_modify_of_ne (h.standard other hbefore) hindependent' hne
    (h.settled other hbefore hindependent')

/-- A check of all fields makes up for anything that was written. -/
theorem coherent_storeAllFailures (h : r.HasStandardRules) : r.storeAllFailures.Coherent where
  toHasStandardRules := hasStandardRules_mapStates h
  settled := fun _ hc _ => .inl (isFresh_storeAllFailures hc)

/-- Every transition keeps a form coherent. -/
theorem coherent_transition {after : Registry} (ht : r.Transition after) (h : r.Coherent) :
    after.Coherent := by
  cases ht with
  | stay => exact h
  | installed hinstall messages =>
      -- The texts that come with the fields are not seen by any chain.
      have hafter := coherent_install h.toHasStandardRules hinstall
      exact ⟨⟨hafter.resolver, hafter.standard⟩, hafter.settled⟩
  | relabelled messages => exact ⟨⟨h.resolver, h.standard⟩, h.settled⟩
  | checked hc => exact coherent_storeFailures h hc
  | written hc hname => exact coherent_storeFailures_modify h hc hname
  | patched writes =>
      -- The writes may leave every field stale, and all fields are checked after them.
      exact coherent_storeAllFailures (hasStandardRules_writeAll h.toHasStandardRules writes)
  | checkedAll => exact coherent_storeAllFailures h.toHasStandardRules
  | touched field =>
      rw [modify_eq_mapStates]
      apply coherent_mapStates_of_marks h
      all_goals
        intro c state
        split <;> rfl
  | touchedAll =>
      apply coherent_mapStates_of_marks h
      all_goals
        intro c state
        rfl
  | cleared =>
      apply coherent_mapStates h
      intro c _ _ _
      exact .inr ⟨rfl, rfl⟩

/-- A write that is accepted stores the value and makes its field fresh. -/
theorem isFresh_of_setValue {value : Value} {failures : FailureSet} {after : Registry}
    (h : r.setValue field value = ⟨.ok failures, after⟩) :
    ∃ c, after.control? field = some c ∧ c.state.value = value ∧ c.IsFresh after := by
  obtain ⟨c, hc, hname, rfl⟩ := setValue_eq_ok h
  have hvalue : c.state.value = value := by
    rw [modify_eq_mapStates] at hc
    obtain ⟨before, -, rfl⟩ := (mem_controls_mapStates r).1 hc
    rw [Control.name_modify] at hname
    simp only [Control.state_modify, if_pos hname, FieldState.setValue]
  have hstored := control?_storeFailures _ hc
  have hmem := ((control?_eq_some_iff _).1 hstored).1
  rw [hname] at hstored
  exact ⟨_, hstored, hvalue, isFresh_storeFailures hc hmem rfl⟩

/-- A write that is accepted leaves the other fields, and it can make stale only
those that agree with the field written. -/
theorem consults_of_setValue {value : Value} {failures : FailureSet} {after : Registry}
    (hstandard : c.Standard) (h : r.setValue field value = ⟨.ok failures, after⟩)
    (hc : c ∈ r.controls) (hne : c.name ≠ field) :
    c ∈ after.controls ∧ (c.IsFresh r → ¬ c.IsFresh after → c.Consults field) := by
  obtain ⟨written, hwritten, hname, rfl⟩ := setValue_eq_ok h
  constructor
  · apply (mem_controls_modify_of_ne (hname ▸ hne)).2
    exact (mem_controls_modify_of_ne hne).2 hc
  · intro hbefore hafter
    -- The check that follows the write changes no value, so the write is to blame.
    apply consults_of_not_isFresh_modify hstandard hbefore
    intro hmid
    apply hafter
    unfold Control.IsFresh
    rw [lookup_storeFailures]
    exact hmid

end

theorem coherent_create (messages : MessageTable) : (create .standard messages).Coherent :=
  ⟨⟨rfl, fun _ hc => absurd hc List.not_mem_nil⟩, fun _ hc => absurd hc List.not_mem_nil⟩

/-- What stored failures are worth after any run of calls on a form with the
standard rules, whether the calls are refused or not.  A field that agrees with
no other one is fresh once it is written, and before that fresh or without
failures.  A check of all fields and a patch make every field fresh.  A write
makes its field fresh, and stale only those that agree with it. -/
theorem freshness_run (messages : MessageTable) (actions : List Action) :
    let r := (create .standard messages).run actions
    (∀ c ∈ r.controls, c.Independent r → c.state.dirty = true → c.IsFresh r) ∧
    (∀ c ∈ r.controls, c.Independent r → c.state.dirty = false →
      c.state.failures = .empty ∨ c.IsFresh r) ∧
    (∀ c ∈ r.validateAll.2.controls, c.IsFresh r.validateAll.2) ∧
    (∀ members after, r.patchValues members = ⟨.ok (), after⟩ →
      ∀ c ∈ after.controls, c.IsFresh after) ∧
    ∀ field ∈ r.fields, ∀ value, ∃ failures after,
      r.setValue field value = ⟨.ok failures, after⟩ ∧
      (∃ c, after.control? field = some c ∧ c.state.value = value ∧ c.IsFresh after) ∧
      ∀ c ∈ r.controls, c.name ≠ field →
        c ∈ after.controls ∧ (c.IsFresh r → ¬ c.IsFresh after → c.Consults field) := by
  intro r
  have hcoherent : r.Coherent :=
    run_induction (fun _ _ ht h => coherent_transition ht h) _ actions
      (coherent_create messages)
  refine ⟨?_, ?_, ?_, ?_, ?_⟩
  · intro c hc hindependent hdirty
    rcases hcoherent.settled c hc hindependent with hfresh | ⟨hpristine, -⟩
    · exact hfresh
    · rw [hdirty] at hpristine
      contradiction
  · intro c hc hindependent _
    rcases hcoherent.settled c hc hindependent with hfresh | ⟨-, hempty⟩
    · exact .inr hfresh
    · exact .inl hempty
  · rw [validateAll_eq]
    intro c hc
    exact isFresh_storeAllFailures hc
  · intro members after h c hc
    obtain ⟨writes, -, rfl⟩ := patchValues_eq_ok h
    exact isFresh_storeAllFailures hc
  · intro field hfield value
    obtain ⟨failures, after, h⟩ := exists_setValue_eq_ok hfield value
    refine ⟨failures, after, h, isFresh_of_setValue h, ?_⟩
    intro c hc hne
    exact consults_of_setValue (hcoherent.standard c hc) h hc hne

end Registry

end FormRules
