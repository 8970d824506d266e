import FormRules.Proofs.Form.Corrections
import FormRules.Proofs.Form.Patch
import FormRules.Signup.Session

/-!
# Stages of a signup session

A form is filled in, submitted and corrected.  Each stage needs fields of its own and
succeeds when they are declared.  The corrections are made one after the other, and none of
them changes whether a field that was corrected before agrees with it.  So the failures
that are stored in the end at the fields that were written are those of the last values.
-/

namespace FormRules

namespace Registry

variable {r after : Registry}

/-- Fields that were left make no difference once the user has seen all of them. -/
theorem markAllTouched_of_foldlM {fields : List String}
    (h : fields.foldlM (fun r field => (r.markTouched field).accepted) r = .ok after) :
    after.markAllTouched = r.markAllTouched := by
  induction fields generalizing r with
  | nil =>
      obtain rfl : r = after := Except.ok.inj h
      rfl
  | cons field fields ih =>
      rw [List.foldlM_cons] at h
      rcases r.markTouched_cases field with ⟨-, htouch⟩ | ⟨-, htouch⟩ <;> rw [htouch] at h
      · contradiction
      · rw [ih h, markAllTouched, modify_eq_mapStates, mapStates_mapStates]
        apply mapStates_congr
        intro c _
        split <;> rfl

end Registry

namespace Signup

/-- The fields that a session needs, in the order in which it misses them. -/
def needed : List String := ["username", "email", "age", "facebook", "password", "confirm"]

/-- The values that the needed fields have in the end. -/
def finalValues : List (String × Value) := corrections ++ [("confirm", .text "hunter22")]

/-- The form in the end as a lookup, when all needed fields are declared. -/
def finalLookup : Lookup := fun field => finalValues.lookup field

/-- The value with which a field is filled in at first. -/
def firstValue (field : String) : Option Value :=
  (Json.member? firstValues field).bind Value.ofJson?

/-- The state of a field that the user has seen, with a value if one was written; its
failures are left out. -/
def stateOf (value : Option Value) : FieldState :=
  ⟨value.getD .null, true, value.isSome, .empty⟩

/-- Where each field has a value that depends on its name, if any. -/
def withValues (values : String → Option Value) (r : Registry) : Registry :=
  r.mapStates fun c _ => stateOf (values c.name)

/-- What holds of the needed fields and of all others holds of every field. -/
theorem forall_fields {P : String → Prop}
    (hneeded : P "username" ∧ P "email" ∧ P "age" ∧ P "facebook" ∧ P "password" ∧ P "confirm")
    (hothers : ∀ field ∉ needed, P field) (field : String) : P field := by
  by_cases hfield : field ∈ needed
  · have hall : ∀ field ∈ needed, P field := by simpa [needed] using hneeded
    exact hall field hfield
  · exact hothers field hfield

theorem overwrite_stateOf (value earlier : Option Value) :
    (stateOf earlier).overwrite value = stateOf (value.or earlier) := by
  cases value with
  | none => rfl
  | some value => rfl

/-- All values that are written in the course of a session are written to needed fields. -/
theorem keys_subset_needed :
    corrections.map Prod.fst ⊆ needed ∧ firstValues.map Prod.fst ⊆ needed ∧
      finalValues.map Prod.fst ⊆ needed := by
  decide

theorem finalLookup_of_notMem {field : String} (h : field ∉ needed) :
    finalLookup field = none := by
  rw [finalLookup, List.lookup_eq_none_iff]
  intro write hwrite
  have hkey := keys_subset_needed.2.2 (List.mem_map_of_mem hwrite)
  rw [bne_iff_ne]
  rintro rfl
  exact h hkey

theorem firstValue_of_notMem {field : String} (h : field ∉ needed) : firstValue field = none := by
  show (lastOf firstValues field).bind Value.ofJson? = none
  rw [lastOf_eq_none_iff.2 fun hmem => h (keys_subset_needed.2.1 hmem), Option.bind_none]

/-- A correction hides the first value, and where there is none the first value stays. -/
theorem finalLookup_eq :
    ∀ field, finalLookup field = (lastOf corrections field).or (firstValue field) := by
  refine forall_fields ⟨rfl, rfl, rfl, rfl, rfl, rfl⟩ fun field hfield => ?_
  have hcorrections : lastOf corrections field = none :=
    lastOf_eq_none_iff.2 fun hmem => hfield (keys_subset_needed.1 hmem)
  rw [finalLookup_of_notMem hfield, firstValue_of_notMem hfield, hcorrections, Option.or_none]

/-- Nothing is never written: at first and in the end a field has a value or has none. -/
theorem firstValue_ne_null : ∀ field, firstValue field ≠ some .null := by
  refine forall_fields ⟨nofun, nofun, nofun, nofun, nofun, nofun⟩ fun field hfield => ?_
  rw [firstValue_of_notMem hfield]
  nofun

theorem finalLookup_ne_null : ∀ field, finalLookup field ≠ some .null := by
  refine forall_fields ⟨nofun, nofun, nofun, nofun, nofun, nofun⟩ fun field hfield => ?_
  rw [finalLookup_of_notMem hfield]
  nofun

/-- The form as it is submitted, given the writes of the first values. -/
def submittedWith (r : Registry) (writes : List (String × Value)) : Registry :=
  (r.writeAll writes).storeAllFailures.markAllTouched

section

variable {r filled corrected : Registry} {field : String}

/-- The first values are accepted by every form. -/
theorem exists_patchValues (r : Registry) :
    ∃ writes, r.readPatch firstValues = .ok writes ∧
      r.patchValues firstValues = ⟨.ok (), (r.writeAll writes).storeAllFailures⟩ := by
  rcases r.patchValues_cases firstValues with ⟨e, hread, -⟩ | ⟨writes, hread, hpatch⟩
  · rw [Registry.readPatch_eq_mapM, Traversal.mapM_eq_error_iff] at hread
    obtain ⟨before, m, after, hsplit, -, hm⟩ := hread
    have hmem : m ∈ r.declaredMembers firstValues := by
      rw [hsplit]
      simp
    have hnested := (Payload.readMember_eq_error_iff.1 hm).1
    have hplain : ∀ m ∈ firstValues, m.2.nested = false := by decide
    rw [hplain m (Registry.mem_declaredMembers.1 hmem).1] at hnested
    contradiction
  · exact ⟨writes, hread, hpatch⟩

theorem fields_patched (writes : List (String × Value)) :
    (r.writeAll writes).storeAllFailures.fields = r.fields := by
  rw [Registry.storeAllFailures, Registry.fields_mapStates, Registry.writeAll_eq_mapStates,
    Registry.fields_mapStates]

theorem fields_submittedWith (writes : List (String × Value)) :
    (submittedWith r writes).fields = r.fields := by
  rw [submittedWith, Registry.markAllTouched, Registry.fields_mapStates, fields_patched]

/-- Filling in fails for the first of the fields to be left that is not declared. -/
theorem fillIn_eq_error (h : firstTouched.find? (· ∉ r.fields) = some field) :
    fillIn r = .error (.unknownField field) := by
  obtain ⟨writes, -, hpatch⟩ := exists_patchValues r
  rw [fillIn, hpatch]
  apply Registry.onFields_markTouched.foldlM_eq_error
  rwa [List.map_id, fields_patched]

/-- A form that is filled in and submitted holds the first values, and the user has seen all
of its fields. -/
theorem exists_fillIn (h : ∀ field ∈ firstTouched, field ∈ r.fields) :
    ∃ filled writes, fillIn r = .ok filled ∧ r.readPatch firstValues = .ok writes ∧
      filled.markAllTouched = submittedWith r writes := by
  obtain ⟨writes, hread, hpatch⟩ := exists_patchValues r
  have hdeclared : ∀ field ∈ firstTouched,
      id field ∈ (r.writeAll writes).storeAllFailures.fields := by
    rw [fields_patched]
    exact h
  obtain ⟨filled, hfilled, -⟩ := Registry.onFields_markTouched.exists_foldlM hdeclared
  refine ⟨filled, writes, ?_, hread, Registry.markAllTouched_of_foldlM hfilled⟩
  rw [fillIn, hpatch]
  exact hfilled

/-- Correcting is writing the corrections and then checking the confirmation. -/
theorem correct_eq (r : Registry) :
    correct r = (r.setEach corrections).bind fun written =>
      (written.validate "confirm").accepted :=
  rfl

/-- Correcting fails for the first field that is not declared. -/
theorem correct_eq_error
    (h : (corrections.map Prod.fst ++ ["confirm"]).find? (· ∉ r.fields) = some field) :
    correct r = .error (.unknownField field) := by
  rw [correct_eq]
  cases hcorrections : (corrections.map Prod.fst).find? (· ∉ r.fields) with
  | some missing =>
      rw [List.find?_append, hcorrections, Option.some_or, Option.some.injEq] at h
      have hrefused : r.setEach corrections = .error (.unknownField missing) :=
        Registry.onFields_setValue.foldlM_eq_error hcorrections
      rw [hrefused, h]
      rfl
  | none =>
      rw [List.find?_append, hcorrections, Option.none_or] at h
      have hconfirm : "confirm" ∉ r.fields ∧ "confirm" = field := by simpa using h
      have hdeclared : ∀ write ∈ corrections, write.1 ∈ r.fields := by
        intro write hwrite
        have hfound := List.find?_eq_none.1 hcorrections write.1 (List.mem_map_of_mem hwrite)
        simpa using hfound
      obtain ⟨written, hwritten, hfields⟩ := Registry.onFields_setValue.exists_foldlM hdeclared
      have hset : r.setEach corrections = .ok written := hwritten
      rcases written.validate_cases "confirm" with ⟨-, hvalidate⟩ | ⟨c, hc, -⟩
      · rw [hset, Except.bind, hvalidate, ← hconfirm.2]
        rfl
      · rw [written.control?_eq_none_iff.2 (hfields ▸ hconfirm.1)] at hc
        contradiction

/-- The corrections and the check after them keep all but the failures of what is written. -/
theorem exists_correct (h : ∀ field ∈ needed, field ∈ r.fields) :
    ∃ written failures corrected, r.setEach corrections = .ok written ∧
      written.validate "confirm" = ⟨.ok failures, corrected⟩ ∧ correct r = .ok corrected ∧
      corrected.withoutFailures = (r.writeAll corrections).withoutFailures := by
  have hwrites : ∀ write ∈ corrections, write.1 ∈ r.fields := fun write hwrite =>
    h write.1 (keys_subset_needed.1 (List.mem_map_of_mem hwrite))
  obtain ⟨written, hwritten, hsame⟩ := Registry.exists_setEach_eq_ok corrections hwrites
  have hfields : written.fields = r.fields := by
    have hstates := congrArg Registry.fields hsame
    rwa [Registry.withoutFailures, Registry.withoutFailures, Registry.fields_mapStates,
      Registry.fields_mapStates, Registry.writeAll_eq_mapStates,
      Registry.fields_mapStates] at hstates
  have hconfirm : "confirm" ∈ written.fields := by
    rw [hfields]
    exact h "confirm" (by decide)
  obtain ⟨c, hc⟩ := written.exists_control?_of_mem hconfirm
  have hvalidate := Registry.validate_of_control? hc
  refine ⟨written, _, written.storeFailures c, hwritten, hvalidate, ?_, ?_⟩
  · rw [correct_eq, hwritten, Except.bind, hvalidate]
    rfl
  · rw [Registry.withoutFailures_storeFailures, hsame]

/-- A form with standard rules that nobody has used yet. -/
structure Unused (r : Registry) : Prop where
  standard : r.HasStandardRules
  fresh : ∀ c ∈ r.controls, c.state = .fresh

section

variable {values : String → Option Value} {writes : List (String × Value)}

theorem lookup_withValues (hvalues : ∀ field, values field ≠ some .null)
    (hfield : field ∈ r.fields) : (withValues values r).lookup field = values field := by
  obtain ⟨c, hc⟩ := r.exists_control?_of_mem hfield
  obtain ⟨-, rfl⟩ := r.control?_eq_some_iff.1 hc
  unfold Registry.lookup Registry.item? withValues
  rw [Registry.control?_mapStates, hc]
  cases hvalue : values c.name with
  | none => simp [stateOf, hvalue]
  | some value =>
      cases value with
      | null => exact absurd hvalue (hvalues c.name)
      | bool | number | text => simp [stateOf, hvalue]

theorem withoutFailures_submitted (hr : Unused r) (hread : r.readPatch firstValues = .ok writes) :
    (submittedWith r writes).withoutFailures = withValues firstValue r := by
  rw [submittedWith, Registry.markAllTouched, Registry.storeAllFailures,
    Registry.writeAll_eq_mapStates, Registry.withoutFailures, Registry.mapStates_mapStates,
    Registry.mapStates_mapStates, Registry.mapStates_mapStates]
  apply Registry.mapStates_congr
  intro c hc
  have hfield : c.name ∈ r.fields := r.name_mem_fields hc
  have hvalue : lastOf writes c.name = firstValue c.name := Registry.lastOf_readPatch hread hfield
  rw [hr.fresh c hc, hvalue]
  cases firstValue c.name with
  | none => rfl
  | some value => rfl

/-- Without failures, the form that is corrected is the one that has the final values. -/
theorem withoutFailures_corrected (hr : Unused r) (hread : r.readPatch firstValues = .ok writes) :
    ((submittedWith r writes).writeAll corrections).withoutFailures =
      withValues finalLookup r := by
  rw [Registry.withoutFailures_writeAll, withoutFailures_submitted hr hread,
    Registry.writeAll_eq_mapStates, withValues, Registry.mapStates_mapStates, withValues]
  apply Registry.mapStates_congr
  intro c _
  rw [Control.name_modify, overwrite_stateOf, finalLookup_eq c.name]

end

/-- No correction changes whether one that was made before disagrees with its field: the
values are all different, before and after. -/
theorem pairwise_corrections :
    corrections.Pairwise fun write later =>
      Validator.disagree write.2 (firstValue later.1) =
        Validator.disagree write.2 (some later.2) := by
  decide

/-- In the end the needed fields are fresh. -/
theorem isFresh_corrected {writes : List (String × Value)} {failures : FailureSet}
    {written : Registry} (hr : Unused r) (hdeclared : ∀ field ∈ needed, field ∈ r.fields)
    (hread : r.readPatch firstValues = .ok writes)
    (hwritten : (submittedWith r writes).setEach corrections = .ok written)
    (hchecked : written.validate "confirm" = ⟨.ok failures, corrected⟩) :
    ∀ field ∈ needed, ∃ c, corrected.control? field = some c ∧ c.IsFresh corrected := by
  have hstandard : (submittedWith r writes).HasStandardRules := by
    rw [submittedWith, Registry.markAllTouched, Registry.storeAllFailures]
    exact Registry.hasStandardRules_mapStates (Registry.hasStandardRules_mapStates
      (Registry.hasStandardRules_writeAll hr.standard writes))
  have hlookup : ∀ write ∈ corrections,
      (submittedWith r writes).lookup write.1 = firstValue write.1 := by
    intro write hwrite
    rw [← Registry.lookup_withoutFailures, withoutFailures_submitted hr hread]
    have hfield := hdeclared write.1 (keys_subset_needed.1 (List.mem_map_of_mem hwrite))
    exact lookup_withValues firstValue_ne_null hfield
  have hquiet := pairwise_corrections.imp_of_mem (S := fun write later =>
      Validator.disagree write.2 ((submittedWith r writes).lookup later.1) =
        Validator.disagree write.2 (some later.2)) (by
    intro write later _ hlater hsame
    rwa [hlookup later hlater])
  have hfresh := Registry.isFresh_setEach hstandard hwritten (by decide) hquiet
  obtain ⟨hconfirm, hothers⟩ := Registry.isFresh_validate hchecked
  have hcases : ∀ field ∈ needed, field = "confirm" ∨ field ∈ corrections.map Prod.fst := by decide
  intro field hfield
  rcases hcases field hfield with rfl | hcorrected
  · exact hconfirm
  · obtain ⟨write, hwrite, rfl⟩ := List.mem_map.1 hcorrected
    obtain ⟨c, hc, hcfresh⟩ := hfresh write hwrite
    obtain ⟨hmem, hcname⟩ := written.control?_eq_some_iff.1 hc
    -- the check of the confirmation does not touch what was corrected before
    have hne : write.1 ≠ "confirm" := by
      have hcorrections : ∀ write ∈ corrections, write.1 ≠ "confirm" := by decide
      exact hcorrections write hwrite
    rw [← hcname] at hne ⊢
    exact ⟨c, hothers c hmem hne hcfresh⟩

end

end Signup

end FormRules
