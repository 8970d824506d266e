import FormRules.Proofs.Form.Freshness
import FormRules.Proofs.Form.Validity

/-!
# Corrections

A form is corrected by single writes, each of which checks its own field alone.  So a
field that was checked before may be stale in the end, if it has to agree with a field
that is written later.  It is not if it disagrees with the later value just as it did with
the earlier one, and then the failures that are stored are those of the last values.
-/

namespace FormRules

/-- A chain of the standard rules gives the same failures when the value disagrees with the
same fields. -/
theorem runChain_congr_of_disagree {chain : List Validator} (h : ∀ v ∈ chain, v.Standard)
    {fields fields' : Lookup} {value : Value}
    (hfields : ∀ other, CustomRule.agreesWith other ∈ chain →
      Validator.disagree value (fields other) = Validator.disagree value (fields' other)) :
    runChain chain value fields = runChain chain value fields' := by
  unfold runChain
  congr 1
  apply List.filterMap_congr
  rintro ⟨rule, check⟩ hv
  rcases h _ hv with ⟨test, htest⟩ | ⟨other, hother⟩
  · change check = .passes test at htest
    subst htest
    rfl
  · rw [hother] at hv ⊢
    simp only [Validator.validate, CustomRule.agreesWith, hfields other hv]

namespace Registry

/-- Calls on single fields: a call on a field of the form keeps the fields, and one on any
other field is refused. -/
structure OnFields {β : Type} (call : Registry → β → Except RuleError Registry)
    (field : β → String) : Prop where
  accepts : ∀ r b, field b ∈ r.fields → ∃ after, call r b = .ok after ∧ after.fields = r.fields
  refuses : ∀ r b, field b ∉ r.fields → call r b = .error (.unknownField (field b))

section

variable {β : Type} {call : Registry → β → Except RuleError Registry} {field : β → String}

/-- Calls in a row stop at the first field that is not declared. -/
theorem OnFields.foldlM_eq_error (h : OnFields call field) {calls : List β} {r : Registry}
    {missing : String} (hmissing : (calls.map field).find? (· ∉ r.fields) = some missing) :
    calls.foldlM call r = .error (.unknownField missing) := by
  induction calls generalizing r with
  | nil => contradiction
  | cons b calls ih =>
      rw [List.foldlM_cons]
      by_cases hb : field b ∈ r.fields
      · obtain ⟨mid, hmid, hfields⟩ := h.accepts r b hb
        rw [List.map_cons, List.find?_cons_of_neg (by simpa using hb)] at hmissing
        rw [hmid]
        exact ih (by rwa [hfields])
      · rw [List.map_cons, List.find?_cons_of_pos (by simpa using hb)] at hmissing
        rw [h.refuses r b hb, ← Option.some.inj hmissing]
        rfl

theorem OnFields.exists_foldlM (h : OnFields call field) {calls : List β} {r : Registry}
    (hdeclared : ∀ b ∈ calls, field b ∈ r.fields) :
    ∃ after, calls.foldlM call r = .ok after ∧ after.fields = r.fields := by
  induction calls generalizing r with
  | nil => exact ⟨r, rfl, rfl⟩
  | cons b calls ih =>
      obtain ⟨mid, hmid, hfields⟩ := h.accepts r b (hdeclared b (by simp))
      have hrest : ∀ later ∈ calls, field later ∈ mid.fields := by
        intro later hlater
        rw [hfields]
        exact hdeclared later (List.mem_cons_of_mem _ hlater)
      obtain ⟨after, hafter, hsame⟩ := ih hrest
      refine ⟨after, ?_, hsame.trans hfields⟩
      rw [List.foldlM_cons, hmid]
      exact hafter

end

theorem onFields_markTouched : OnFields (fun r field => (r.markTouched field).accepted) id where
  accepts r field h := by
    rcases r.markTouched_cases field with ⟨hnot, -⟩ | ⟨-, htouch⟩
    · exact absurd h hnot
    · exact ⟨_, by rw [htouch]; rfl, r.fields_modify field _⟩
  refuses r field h := by
    rcases r.markTouched_cases field with ⟨-, htouch⟩ | ⟨hfield, -⟩
    · rw [htouch]
      rfl
    · exact absurd hfield h

theorem onFields_setValue :
    OnFields (fun r write => (r.setValue write.1 write.2).accepted)
      (Prod.fst : String × Value → String) where
  accepts r write h := by
    obtain ⟨failures, after, hafter⟩ := exists_setValue_eq_ok h write.2
    obtain ⟨c, -, -, hstored⟩ := setValue_eq_ok hafter
    refine ⟨after, ?_, ?_⟩
    · rw [hafter]
      rfl
    · rw [hstored, storeFailures, fields_modify, fields_modify]
  refuses r write h := by
    rcases r.setValue_cases write.1 write.2 with ⟨-, hset⟩ | ⟨c, hc, hname, -⟩
    · rw [hset]
      rfl
    · have hfield := name_mem_fields _ hc
      rw [hname, fields_modify] at hfield
      exact absurd hfield h

section

variable {r after : Registry} {field : String} {value : Value} {failures : FailureSet}
  {c : Control} {writes : List (String × Value)}

/-- A value disagrees with a field as it does with the value of the field. -/
theorem disagree_lookup (hc : r.control? field = some c) (value : Value) :
    Validator.disagree value (r.lookup field) =
      Validator.disagree value (some c.state.value) := by
  unfold lookup item?
  rw [hc]
  cases hvalue : c.state.value with
  | null => simp [hvalue, Validator.disagree, Value.isEmpty]
  | bool | number | text => simp [hvalue]

/-- Writes that are all accepted begin with one that is. -/
theorem setEach_cons_eq_ok {write : String × Value} (h : r.setEach (write :: writes) = .ok after) :
    ∃ failures mid, r.setValue write.1 write.2 = ⟨.ok failures, mid⟩ ∧
      mid.setEach writes = .ok after := by
  rw [setEach, List.foldlM_cons] at h
  rcases r.setValue_cases write.1 write.2 with ⟨-, hset⟩ | ⟨c, -, -, hset⟩ <;> rw [hset] at h
  · contradiction
  · exact ⟨_, _, hset, h⟩

theorem lookup_setValue_of_ne (h : r.setValue field value = ⟨.ok failures, after⟩)
    {other : String} (hne : other ≠ field) : after.lookup other = r.lookup other := by
  obtain ⟨written, -, -, rfl⟩ := setValue_eq_ok h
  rw [lookup_storeFailures, r.lookup_modify_of_ne hne]

theorem hasStandardRules_setValue (hstandard : r.HasStandardRules)
    (h : r.setValue field value = ⟨.ok failures, after⟩) : after.HasStandardRules := by
  obtain ⟨written, -, -, rfl⟩ := setValue_eq_ok h
  exact hasStandardRules_modify (hasStandardRules_modify hstandard _ _) _ _

/-- A write to another field leaves a field fresh if the field disagrees with the new value
as it did with the old one. -/
theorem isFresh_setValue_of_ne (hstandard : c.Standard)
    (h : r.setValue field value = ⟨.ok failures, after⟩) (hc : c ∈ r.controls)
    (hne : c.name ≠ field)
    (hquiet : Validator.disagree c.state.value (r.lookup field) =
      Validator.disagree c.state.value (some value))
    (hfresh : c.IsFresh r) : c ∈ after.controls ∧ c.IsFresh after := by
  refine ⟨(consults_of_setValue hstandard h hc hne).1, hfresh.trans ?_⟩
  obtain ⟨written, hwritten, hvalue, -⟩ := isFresh_of_setValue h
  apply runChain_congr_of_disagree hstandard
  intro other _
  by_cases hother : other = field
  · rw [hother, disagree_lookup hwritten, hvalue, hquiet]
  · rw [lookup_setValue_of_ne h hother]

/-- Later writes to other fields leave a field fresh if it disagrees with each of the new
values as it did with the old one. -/
theorem isFresh_setEach_of_notMem (hstandard : r.HasStandardRules)
    (h : r.setEach writes = .ok after) (hnodup : (writes.map Prod.fst).Nodup)
    (hc : c ∈ r.controls) (hname : c.name ∉ writes.map Prod.fst)
    (hquiet : ∀ write ∈ writes, Validator.disagree c.state.value (r.lookup write.1) =
      Validator.disagree c.state.value (some write.2))
    (hfresh : c.IsFresh r) : c ∈ after.controls ∧ c.IsFresh after := by
  induction writes generalizing r with
  | nil =>
      obtain rfl : r = after := Except.ok.inj h
      exact ⟨hc, hfresh⟩
  | cons write writes ih =>
      rw [List.map_cons, List.nodup_cons] at hnodup
      rw [List.map_cons, List.mem_cons, not_or] at hname
      obtain ⟨failures, mid, hmid, hrest⟩ := setEach_cons_eq_ok h
      obtain ⟨hcmid, hfreshmid⟩ := isFresh_setValue_of_ne (hstandard.standard c hc) hmid hc
        hname.1 (hquiet write (by simp)) hfresh
      refine ih (hasStandardRules_setValue hstandard hmid) hrest hnodup.2 hcmid hname.2 ?_ hfreshmid
      intro later hlater
      -- No field is written twice, so the later write still finds the value of the start.
      have hne : later.1 ≠ write.1 := fun heq =>
        hnodup.1 (heq ▸ List.mem_map_of_mem hlater)
      rw [lookup_setValue_of_ne hmid hne]
      exact hquiet later (List.mem_cons_of_mem _ hlater)

/-- After writes to different fields every field that was written is fresh, if each one
disagrees with the values that are written after it as it did with those before. -/
theorem isFresh_setEach (hstandard : r.HasStandardRules) (h : r.setEach writes = .ok after)
    (hnodup : (writes.map Prod.fst).Nodup)
    (hquiet : writes.Pairwise fun write later =>
      Validator.disagree write.2 (r.lookup later.1) = Validator.disagree write.2 (some later.2)) :
    ∀ write ∈ writes, ∃ c, after.control? write.1 = some c ∧ c.IsFresh after := by
  induction writes generalizing r with
  | nil => simp
  | cons write writes ih =>
      rw [List.map_cons, List.nodup_cons] at hnodup
      rw [List.pairwise_cons] at hquiet
      obtain ⟨failures, mid, hmid, hrest⟩ := setEach_cons_eq_ok h
      have hstandardmid := hasStandardRules_setValue hstandard hmid
      have hlookup : ∀ later ∈ writes, mid.lookup later.1 = r.lookup later.1 := by
        intro later hlater
        have hne : later.1 ≠ write.1 := fun heq =>
          hnodup.1 (heq ▸ List.mem_map_of_mem hlater)
        exact lookup_setValue_of_ne hmid hne
      intro written hwritten
      rcases List.mem_cons.1 hwritten with rfl | hwritten
      · obtain ⟨c, hc, hvalue, hfresh⟩ := isFresh_of_setValue hmid
        obtain ⟨hcmid, hname⟩ := (control?_eq_some_iff _).1 hc
        have hquietmid : ∀ later ∈ writes,
            Validator.disagree c.state.value (mid.lookup later.1) =
              Validator.disagree c.state.value (some later.2) := by
          intro later hlater
          rw [hlookup later hlater, hvalue]
          exact hquiet.1 later hlater
        obtain ⟨hcafter, hfreshafter⟩ := isFresh_setEach_of_notMem hstandardmid hrest hnodup.2 hcmid
          (hname ▸ hnodup.1) hquietmid hfresh
        exact ⟨c, (control?_eq_some_iff _).2 ⟨hcafter, hname⟩, hfreshafter⟩
      · refine ih hstandardmid hrest hnodup.2 ?_ written hwritten
        apply hquiet.2.imp_of_mem
        intro a b _ hb hab
        rwa [hlookup b hb]

/-- A check of a field makes it fresh and leaves all others as they are. -/
theorem isFresh_validate (h : r.validate field = ⟨.ok failures, after⟩) :
    (∃ c, after.control? field = some c ∧ c.IsFresh after) ∧
      ∀ c ∈ r.controls, c.name ≠ field → c.IsFresh r →
        after.control? c.name = some c ∧ c.IsFresh after := by
  obtain ⟨checked, hchecked, rfl⟩ := validate_eq_ok h
  obtain ⟨hmem, rfl⟩ := r.control?_eq_some_iff.1 hchecked
  have hstored := r.control?_storeFailures hmem
  have hstoredmem := ((control?_eq_some_iff _).1 hstored).1
  refine ⟨⟨_, hstored, isFresh_storeFailures hmem hstoredmem rfl⟩, ?_⟩
  intro c hc hne hfresh
  refine ⟨(control?_eq_some_iff _).2 ⟨(mem_controls_modify_of_ne hne).2 hc, rfl⟩, ?_⟩
  unfold Control.IsFresh
  rw [lookup_storeFailures]
  exact hfresh

end

end Registry

end FormRules
