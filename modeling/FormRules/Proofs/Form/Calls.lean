import FormRules.Form.Definition
import FormRules.Proofs.Form.Lookup

/-!
# What calls on a form do

For every call that may be refused there is one lemma that says all that it can do:
it is refused and gives back the form as it was, or it is accepted and gives back
the form with a change that is named.  A check of all fields is never refused; it
stores what the chains give and says whether all of them pass.
-/

namespace FormRules.Registry

variable {r after : Registry} {field : String}

/-- An installation replaces the fields, counts up, and changes nothing else. -/
theorem install_cases (r : Registry) (specs : List RuleSpec) :
    (∃ e, buildControls r.resolver [] specs = .error e ∧ r.install specs = ⟨.error e, r⟩) ∨
      ∃ after, buildControls r.resolver [] specs = .ok after.entries ∧
        after.generation = r.generation + 1 ∧ after.messages = r.messages ∧
        after.resolver = r.resolver ∧ r.install specs = ⟨.ok after.entries, after⟩ := by
  unfold install
  split
  case h_1 e h => exact .inl ⟨e, h, rfl⟩
  case h_2 entries h => exact .inr ⟨r.replaceControls h, h, rfl, rfl, rfl, rfl⟩

/-- The texts of a definition are added when its fields are accepted. -/
theorem installInto_cases (d : Definition) (r : Registry) :
    (∃ e, r.install d.fields = ⟨.error e, r⟩ ∧ d.installInto r = ⟨.error e, r⟩) ∨
      ∃ installed, r.install d.fields = ⟨.ok installed.entries, installed⟩ ∧
        d.installInto r = ⟨.ok (), d.addTexts installed⟩ := by
  unfold Definition.installInto
  rcases r.install_cases d.fields with ⟨e, -, h⟩ | ⟨installed, -, -, -, -, h⟩
  · exact .inl ⟨e, h, by rw [h]; rfl⟩
  · exact .inr ⟨installed, h, by rw [h]; rfl⟩

/-- A check stores the failures of the field. -/
theorem validate_cases (r : Registry) (field : String) :
    (field ∉ r.fields ∧ r.validate field = ⟨.error (.unknownField field), r⟩) ∨
      ∃ c, r.control? field = some c ∧
        r.validate field = ⟨.ok (c.runValidators r.lookup), r.storeFailures c⟩ := by
  unfold validate
  cases hc : r.control? field with
  | none => exact .inl ⟨r.control?_eq_none_iff.1 hc, rfl⟩
  | some c =>
      obtain ⟨-, rfl⟩ := r.control?_eq_some_iff.1 hc
      exact .inr ⟨c, rfl, rfl⟩

/-- A write stores the value and then the failures of the field.  The check after
the write finds the field that was written. -/
theorem setValue_cases (r : Registry) (field : String) (value : Value) :
    (field ∉ r.fields ∧ r.setValue field value = ⟨.error (.unknownField field), r⟩) ∨
      ∃ c ∈ (r.modify field (.setValue value)).controls, c.name = field ∧
        r.setValue field value =
          ⟨.ok (c.runValidators (r.modify field (.setValue value)).lookup),
            (r.modify field (.setValue value)).storeFailures c⟩ := by
  unfold setValue
  cases hbefore : r.control? field with
  | none => exact .inl ⟨r.control?_eq_none_iff.1 hbefore, rfl⟩
  | some before =>
      right
      have hwritten := r.control?_modify_self hbefore (.setValue value)
      obtain ⟨hmem, hname⟩ := (control?_eq_some_iff _).1 hwritten
      rcases (r.modify field (.setValue value)).validate_cases field with ⟨hnot, -⟩ | ⟨c, hc, h⟩
      · exact absurd hwritten (by rw [(control?_eq_none_iff _).2 hnot]; nofun)
      · obtain rfl := Option.some.inj (hwritten.symm.trans hc)
        exact ⟨_, hmem, hname, h⟩

/-- Storing results one after the other at the fields that they are about stores
each of them, and the verdict is about all of them. -/
theorem storeEach_map (f : Control → FailureSet) (valid : Bool)
    (entries : List (String × Control)) :
    storeEach valid entries ((entries.map Prod.snd).map f) =
      (valid && (entries.map Prod.snd).all fun c => (f c).isEmpty,
        entries.map fun entry => (entry.1, entry.2.modify (.setFailures (f entry.2)))) := by
  -- The verdict so far goes along with the entries, so it is any verdict here.
  induction entries generalizing valid with
  | nil => simp [storeEach]
  | cons entry entries ih =>
      rw [List.map_cons, List.map_cons, storeEach, ih, List.all_cons, Bool.and_assoc]
      rfl

/-- A check of all fields stores the failures that they have on the form as it was,
and it passes when looking at the form says that it is valid. -/
theorem validateAll_eq (r : Registry) : r.validateAll = (r.isValid, r.storeAllFailures) := by
  have hstored := storeEach_map (fun c => c.runValidators r.lookup) true r.entries
  have hverdict := congrArg Prod.fst hstored
  have hentries := congrArg Prod.snd hstored
  exact Prod.ext hverdict (Registry.ext rfl rfl hentries rfl)

/-- A patch makes its writes and then checks all fields. -/
theorem patchValues_cases (r : Registry) (members : List (String × Json)) :
    (∃ e, r.readPatch members = .error e ∧ r.patchValues members = ⟨.error e, r⟩) ∨
      ∃ writes, r.readPatch members = .ok writes ∧
        r.patchValues members = ⟨.ok (), (r.writeAll writes).storeAllFailures⟩ := by
  unfold patchValues
  cases r.readPatch members with
  | error e => exact .inl ⟨e, rfl, rfl⟩
  | ok writes => exact .inr ⟨writes, rfl, by dsimp only; rw [validateAll_eq]⟩

theorem markTouched_cases (r : Registry) (field : String) :
    (field ∉ r.fields ∧ r.markTouched field = ⟨.error (.unknownField field), r⟩) ∨
      (field ∈ r.fields ∧ r.markTouched field = ⟨.ok (), r.modify field .markTouched⟩) := by
  unfold markTouched
  cases hc : r.control? field with
  | none => exact .inl ⟨r.control?_eq_none_iff.1 hc, rfl⟩
  | some c =>
      obtain ⟨hmem, rfl⟩ := r.control?_eq_some_iff.1 hc
      exact .inr ⟨r.name_mem_fields hmem, rfl⟩

/-! ### Calls that are accepted -/

/-- Every field of the form can be checked. -/
theorem validate_of_control? {c : Control} (h : r.control? field = some c) :
    r.validate field = ⟨.ok (c.runValidators r.lookup), r.storeFailures c⟩ := by
  rcases r.validate_cases field with ⟨hnot, -⟩ | ⟨c', hc', hvalidate⟩
  · rw [r.control?_eq_none_iff.2 hnot] at h
    contradiction
  · obtain rfl := Option.some.inj (h.symm.trans hc')
    exact hvalidate

/-- Every field of the form takes any value. -/
theorem exists_setValue_eq_ok (h : field ∈ r.fields) (value : Value) :
    ∃ failures after, r.setValue field value = ⟨.ok failures, after⟩ := by
  rcases r.setValue_cases field value with ⟨hnot, -⟩ | ⟨c, -, -, hset⟩
  · exact absurd h hnot
  · exact ⟨_, _, hset⟩

/-- A check that is accepted stores the failures that it answers. -/
theorem validate_eq_ok {failures : FailureSet} (h : r.validate field = ⟨.ok failures, after⟩) :
    ∃ c, r.control? field = some c ∧ after = r.storeFailures c := by
  rcases r.validate_cases field with ⟨-, hvalidate⟩ | ⟨c, hc, hvalidate⟩ <;> rw [hvalidate] at h
  · simp at h
  · exact ⟨c, hc, (Reply.mk.inj h).2.symm⟩

/-- A write that is accepted stores the value and then the failures of the
field. -/
theorem setValue_eq_ok {value : Value} {failures : FailureSet}
    (h : r.setValue field value = ⟨.ok failures, after⟩) :
    ∃ c ∈ (r.modify field (.setValue value)).controls, c.name = field ∧
      after = (r.modify field (.setValue value)).storeFailures c := by
  rcases r.setValue_cases field value with ⟨-, hset⟩ | ⟨c, hc, hname, hset⟩ <;> rw [hset] at h
  · simp at h
  · exact ⟨c, hc, hname, (Reply.mk.inj h).2.symm⟩

/-- A patch that is accepted makes its writes and then checks all fields. -/
theorem patchValues_eq_ok {members : List (String × Json)}
    (h : r.patchValues members = ⟨.ok (), after⟩) :
    ∃ writes, r.readPatch members = .ok writes ∧
      after = (r.writeAll writes).storeAllFailures := by
  rcases r.patchValues_cases members with ⟨e, -, hpatch⟩ | ⟨writes, hread, hpatch⟩ <;>
    rw [hpatch] at h
  · simp at h
  · exact ⟨writes, hread, (Reply.mk.inj h).2.symm⟩

/-- A definition that can be built is installed into a new form that has its
texts. -/
theorem install_of_build {d : Definition} (h : d.build = .ok r) :
    (new.withMessages d.messageTable).install d.fields = ⟨.ok r.entries, r⟩ := by
  rw [Definition.build] at h
  rcases (new.withMessages d.messageTable).install_cases d.fields with
    ⟨e, -, hinstall⟩ | ⟨after, -, -, -, -, hinstall⟩ <;> rw [hinstall] at h
  · contradiction
  · obtain rfl := Except.ok.inj h
    exact hinstall

/-! ### What is shown -/

/-- What is shown are the failures of a field that is touched and dirty. -/
theorem surface_eq_some {s : FieldState} {failures : FailureSet}
    (h : s.surface = some failures) :
    s.touched = true ∧ s.dirty = true ∧ failures = s.failures := by
  unfold FieldState.surface at h
  split at h
  · rename_i hengaged
    rw [Bool.and_eq_true, Bool.and_eq_true] at hengaged
    exact ⟨hengaged.1.2, hengaged.2, (Option.some.inj h).symm⟩
  · contradiction

/-- Texts are shown for the failures of a field that is touched and dirty. -/
theorem errors_eq_some {overrides : Option MessageTable} {texts : List String}
    (h : r.errors field overrides = some texts) :
    ∃ c, r.control? field = some c ∧ c.state.touched = true ∧ c.state.dirty = true ∧
      texts = r.messages.resolveAll overrides c.state.failures := by
  obtain ⟨c, hc, h⟩ := Option.bind_eq_some_iff.1 h
  obtain ⟨failures, hsurface, hshown⟩ := Option.bind_eq_some_iff.1 h
  obtain ⟨htouched, hdirty, rfl⟩ := surface_eq_some hsurface
  exact ⟨c, hc, htouched, hdirty, (Option.some.inj hshown).symm⟩

end FormRules.Registry
