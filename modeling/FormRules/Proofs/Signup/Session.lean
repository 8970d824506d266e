import FormRules.Proofs.Form.Order
import FormRules.Proofs.Form.Shown
import FormRules.Proofs.Signup.Stages

/-!
# What a signup session shows

A session with a definition that can be built comes to its end exactly when the definition
declares all fields that the session needs, whatever rules it gives them.  Otherwise it
stops at the first one that is missing.  What it shows in the end is up to date: a field
that was written has a cross if its chain fails on the last values of the whole form, and
all other fields have a check mark.
-/

namespace FormRules.Signup

/-- A session with a definition, which may be the one in a file. -/
inductive SessionWith (d : Definition) : Outcome → Prop
  | given : SessionWith d (run d)
  | loaded {path : String} {contents : Option ByteArray}
      (h : Definition.load path contents = .ok d) : SessionWith d (runFile path contents)

/-- The first two listings. -/
def submission (filled : Registry) : List String :=
  "After first pass (only touched fields show errors):" :: listing filled none ++
    "" :: "On submit:" :: listing filled.markAllTouched (some overrides)

/-- The line of a specification in the last listing. -/
inductive FinalLine (d : Definition) (spec : RuleSpec) : String → Prop
  /-- The field has been written, and its chain fails on the values of the end. -/
  | failing {value : Value} {chain : List Validator} (hvalue : finalLookup spec.field = some value)
      (hchain : Resolver.standard.compile spec.rules = .ok chain)
      (hfails : (runChain chain value finalLookup).codes ≠ []) :
      FinalLine d spec ("  ✗ " ++ pad 10 spec.field ++ " " ++ "; ".intercalate
        (d.messageTable.resolveAll (some overrides) (runChain chain value finalLookup)))
  /-- The field has been written, and its chain passes. -/
  | passing {value : Value} {chain : List Validator} (hvalue : finalLookup spec.field = some value)
      (hchain : Resolver.standard.compile spec.rules = .ok chain)
      (hpasses : (runChain chain value finalLookup).codes = []) :
      FinalLine d spec ("  ✓ " ++ spec.field)
  /-- The field has not been written. -/
  | unwritten (hvalue : finalLookup spec.field = none) : FinalLine d spec ("  ✓ " ++ spec.field)

section

variable {d : Definition} {built corrected : Registry} {o : Outcome}

/-- A form that has just been built is unused. -/
theorem unused_of_build (h : d.build = .ok built) : Unused built where
  standard := by
    have hnew : (Registry.new.withMessages d.messageTable).HasStandardRules :=
      ⟨rfl, fun _ hc => absurd hc List.not_mem_nil⟩
    exact (Registry.coherent_install hnew (Registry.install_of_build h)).toHasStandardRules
  fresh := by
    intro c hc
    obtain ⟨spec, -, hdeclares⟩ := Registry.declares_of_install (Registry.install_of_build h) hc
    rw [hdeclares.eq_new]
    rfl

/-- Before a session there may be events, but a session with a definition is one on the form
that is built from it. -/
theorem SessionWith.eq_after (ho : SessionWith d o) (h : d.build = .ok built) :
    ∃ events, o = .after events (runOn built) := by
  have hresult : d.buildLogged.result = .ok built := d.result_buildLogged.trans h
  have hrun : run d = .after d.buildLogged.events (runOn built) := by
    simp only [run, hresult]
  cases ho with
  | given => exact ⟨_, hrun⟩
  | @loaded path contents hload =>
      refine ⟨Definition.loadEvents path contents ++ d.buildLogged.events, ?_⟩
      simp only [runFile, hload, hrun, Outcome.after, List.map_append, List.append_assoc]

/-- A form at the end of a session: it holds the final values, and the failures that are
stored at the needed fields are up to date. -/
structure Ended (built corrected : Registry) : Prop where
  declared : ∀ field ∈ needed, field ∈ built.fields
  state : corrected.withoutFailures = withValues finalLookup built
  fresh : ∀ field ∈ needed, ∃ c, corrected.control? field = some c ∧ c.IsFresh corrected

namespace Ended

/-- Without failures, what is stored at the fields is what their specifications and the final
values say. -/
theorem forall₂ (he : Ended built corrected) (h : d.build = .ok built) :
    List.Forall₂ (fun spec c => c ∈ corrected.controls ∧ c.name = spec.field ∧
        Resolver.standard.compile spec.rules = .ok c.validators ∧
        c.state.setFailures .empty = stateOf (finalLookup spec.field))
      d.fields corrected.controls := by
  have hcontrols : corrected.controls.map (·.modify (.setFailures .empty)) =
      built.controls.map fun c => c.modify fun _ => stateOf (finalLookup c.name) := by
    have hsame := congrArg Registry.controls he.state
    rwa [Registry.withoutFailures, withValues, Registry.controls_mapStates,
      Registry.controls_mapStates] at hsame
  have hbuilt : List.Forall₂ (fun spec c => c.name = spec.field ∧
      Resolver.standard.compile spec.rules = .ok c.validators ∧
      c.state = stateOf (finalLookup spec.field)) d.fields
      (corrected.controls.map (·.modify (.setFailures .empty))) := by
    rw [hcontrols, List.forall₂_map_right_iff]
    have hdeclared := (Registry.install_eq_ok_iff.1 (Registry.install_of_build h)).2.1
    refine hdeclared.imp fun spec c hdeclares => ?_
    exact ⟨hdeclares.name, hdeclares.chain, by rw [← hdeclares.name]; rfl⟩
  rw [List.forall₂_map_right_iff, List.forall₂_iff_zip] at hbuilt
  rw [List.forall₂_iff_zip]
  exact ⟨hbuilt.1, fun hpair => ⟨(List.of_mem_zip hpair).2, hbuilt.2 hpair⟩⟩

/-- The final values are what cross-field checks see in the end. -/
theorem lookup_eq (he : Ended built corrected) : corrected.lookup = finalLookup := by
  rw [← Registry.lookup_withoutFailures, he.state]
  funext field
  by_cases hfield : field ∈ built.fields
  · exact lookup_withValues finalLookup_ne_null hfield
  · have hneeded : field ∉ needed := fun hmem => hfield (he.declared field hmem)
    rw [finalLookup_of_notMem hneeded]
    apply Registry.lookup_eq_none_of_notMem
    rwa [withValues, Registry.fields_mapStates]

theorem messages_eq (he : Ended built corrected) (h : d.build = .ok built) :
    corrected.messages = d.messageTable := by
  have hsame := congrArg Registry.messages he.state
  rw [Registry.withoutFailures, withValues, Registry.messages_mapStates,
    Registry.messages_mapStates] at hsame
  rw [hsame, (Registry.install_eq_ok (Registry.install_of_build h)).2.2.1]
  rfl

/-- Only needed fields are written, so every field with a value is fresh. -/
theorem isFresh {c : Control} {value : Value} (he : Ended built corrected)
    (hc : c ∈ corrected.controls) (hvalue : finalLookup c.name = some value) :
    c.IsFresh corrected := by
  have hneeded : c.name ∈ needed := by
    by_contra hnot
    rw [finalLookup_of_notMem hnot] at hvalue
    contradiction
  obtain ⟨c', hc', hfresh⟩ := he.fresh c.name hneeded
  obtain ⟨hmem, hname⟩ := corrected.control?_eq_some_iff.1 hc'
  obtain rfl : c' = c := corrected.eq_of_name_eq hmem hc hname
  exact hfresh

end Ended

/-- A field that was not written has a check mark, and so has one without failures. -/
theorem line_eq_check {c : Control} (hc : c ∈ corrected.controls)
    (hquiet : c.state.dirty = true → c.state.failures.codes = []) :
    line corrected (some overrides) c.name = "  ✓ " ++ c.name := by
  have hfound : corrected.control? c.name = some c := corrected.control?_eq_some_iff.2 ⟨hc, rfl⟩
  have hhidden : c.state.surface = none := by
    rw [FieldState.surface_eq, if_neg]
    rintro ⟨-, hdirty, hcodes⟩
    exact hcodes (hquiet hdirty)
  rw [line, Registry.errors_eq, hfound]
  simp only [Option.bind_some, hhidden, Option.map_none]

theorem line_eq_cross {c : Control} (hc : c ∈ corrected.controls)
    (htouched : c.state.touched = true) (hdirty : c.state.dirty = true)
    (hcodes : c.state.failures.codes ≠ []) :
    line corrected (some overrides) c.name = "  ✗ " ++ pad 10 c.name ++ " " ++ "; ".intercalate
      (corrected.messages.resolveAll (some overrides) c.state.failures) := by
  have hfound : corrected.control? c.name = some c := corrected.control?_eq_some_iff.2 ⟨hc, rfl⟩
  have hshown : c.state.surface = some c.state.failures := by
    rw [FieldState.surface_eq, if_pos ⟨htouched, hdirty, hcodes⟩]
  rw [line, Registry.errors_eq, hfound]
  simp only [Option.bind_some, hshown, Option.map_some]

/-- The line of a field is what its specification and the final values say. -/
theorem Ended.finalLine (he : Ended built corrected) (h : d.build = .ok built) {spec : RuleSpec}
    {c : Control} (hc : c ∈ corrected.controls) (hname : c.name = spec.field)
    (hchain : Resolver.standard.compile spec.rules = .ok c.validators)
    (hkept : c.state.setFailures .empty = stateOf (finalLookup spec.field)) :
    FinalLine d spec (line corrected (some overrides) c.name) := by
  cases hvalue : finalLookup spec.field with
  | none =>
      rw [hvalue] at hkept
      have hclean : c.state.dirty = false := congrArg FieldState.dirty hkept
      rw [line_eq_check hc (by simp [hclean]), hname]
      exact .unwritten hvalue
  | some value =>
      rw [hvalue] at hkept
      have hstored : c.state.value = value := congrArg FieldState.value hkept
      have hfailures : c.state.failures = runChain c.validators value finalLookup := by
        rw [he.isFresh hc (hname ▸ hvalue), Control.runValidators, hstored, he.lookup_eq]
      by_cases hcodes : (runChain c.validators value finalLookup).codes = []
      · rw [line_eq_check hc fun _ => hfailures ▸ hcodes, hname]
        exact .passing hvalue hchain hcodes
      · have htouched : c.state.touched = true := congrArg FieldState.touched hkept
        have hdirty : c.state.dirty = true := congrArg FieldState.dirty hkept
        rw [line_eq_cross hc htouched hdirty (hfailures ▸ hcodes), hname, he.messages_eq h,
          hfailures]
        exact .failing hvalue hchain hcodes

/-- The last listing has a line for each specification. -/
theorem Ended.forall₂_finalLine (he : Ended built corrected) (h : d.build = .ok built) :
    List.Forall₂ (FinalLine d) d.fields (listing corrected (some overrides)) := by
  rw [listing, Registry.fields_eq, List.map_map, List.forall₂_map_right_iff]
  refine (he.forall₂ h).imp ?_
  rintro spec c ⟨hc, hname, hchain, hkept⟩
  exact he.finalLine h hc hname hchain hkept

/-- The last listing of a form that is valid has no cross. -/
theorem Ended.listing_of_valid (he : Ended built corrected) (h : d.build = .ok built)
    (hvalid : corrected.validateAll.1 = true) :
    listing corrected (some overrides) = d.fields.map fun spec => "  ✓ " ++ spec.field := by
  rw [Registry.validateAll_eq, Registry.isValid, List.all_eq_true] at hvalid
  rw [listing, Registry.fields_eq, List.map_map]
  apply (Traversal.map_eq_map_of_forall₂ (he.forall₂ h) _).symm
  rintro spec c ⟨hc, hname, -, hkept⟩
  rw [Function.comp_apply, ← hname, line_eq_check hc]
  intro hdirty
  -- A field that was written has a value, and so the failures that are stored at it are
  -- those that the verdict is about.
  have hsome : (finalLookup spec.field).isSome = true :=
    (congrArg FieldState.dirty hkept).symm.trans hdirty
  obtain ⟨value, hvalue⟩ := Option.isSome_iff_exists.1 hsome
  rw [he.isFresh hc (hname ▸ hvalue), FailureSet.isEmpty_iff.1 (hvalid c hc)]
  rfl

theorem events_append (entries rest : List Entry) :
    Entry.events (entries ++ rest) = Entry.events entries ++ Entry.events rest := by
  unfold Entry.events
  rw [List.filterMap_append]

/-! ## The stages of a session on a form -/

variable {r filled : Registry} {e : RuleError} {field : String}

/-- A session whose form cannot be filled in shows nothing. -/
theorem runOn_of_fillIn_error (hfill : fillIn r = .error e) :
    (runOn r).failure = some e.message ∧ (runOn r).output = [] := by
  simp only [runOn, hfill, Outcome.output, Entry.lines_map_event, and_self]

/-- A session whose form cannot be corrected shows how it was filled in and submitted. -/
theorem runOn_of_correct_error (hfill : fillIn r = .ok filled)
    (hcorrect : correct filled.markAllTouched = .error e) :
    (runOn r).failure = some e.message ∧ (runOn r).output = submission filled := by
  simp only [runOn, hfill, hcorrect, Outcome.output, Entry.lines_append, Entry.lines_map_event,
    lines_listingEntries, submission, true_and]
  simp

/-- A session that comes to its end shows the corrected form and says whether it is valid. -/
theorem runOn_of_correct (hfill : fillIn r = .ok filled)
    (hcorrect : correct filled.markAllTouched = .ok corrected) :
    (runOn r).failure = none ∧
      (runOn r).output = submission filled ++
        "" :: "After corrections:" :: listing corrected (some overrides) ∧
      (runOn r).events.getLast? = some (verdict corrected) := by
  refine ⟨?_, ?_, ?_⟩
  · simp only [runOn, hfill, hcorrect]
  · simp only [runOn, hfill, hcorrect, Outcome.output, Entry.lines_append, Entry.lines_map_event,
      lines_listingEntries, Entry.lines_event, Entry.lines_nil, submission]
    simp
  · have hlast : Entry.events [.event (verdict corrected)] = [verdict corrected] := rfl
    simp only [runOn, hfill, hcorrect, Outcome.events, events_append, hlast, List.getLast?_concat]

/-- A session stops at the first field that it needs and does not find. -/
theorem runOn_of_missing (hmissing : needed.find? (· ∉ r.fields) = some field) :
    (runOn r).failure = some (RuleError.unknownField field).message ∧
      (field ∈ firstTouched → (runOn r).output = []) ∧
      (field ∉ firstTouched →
        ∃ filled, fillIn r = .ok filled ∧ (runOn r).output = submission filled) := by
  have hneeded : needed = firstTouched ++ ["facebook", "password", "confirm"] := rfl
  rw [hneeded, List.find?_append] at hmissing
  cases hfirst : firstTouched.find? (· ∉ r.fields) with
  | some first =>
      rw [hfirst, Option.some_or, Option.some.injEq] at hmissing
      subst hmissing
      obtain ⟨hfailure, houtput⟩ := runOn_of_fillIn_error (fillIn_eq_error hfirst)
      exact ⟨hfailure, fun _ => houtput, fun hnot => absurd (List.mem_of_find?_eq_some hfirst) hnot⟩
  | none =>
      rw [hfirst, Option.none_or] at hmissing
      have hdeclared : ∀ field ∈ firstTouched, field ∈ r.fields := by
        intro field hfield
        simpa using List.find?_eq_none.1 hfirst field hfield
      obtain ⟨filled, writes, hfill, -, hsubmitted⟩ := exists_fillIn hdeclared
      have hfields : filled.markAllTouched.fields = r.fields := by
        rw [hsubmitted, fields_submittedWith]
      -- The fields that are corrected before the missing one are those left before.
      have hlater : (corrections.map Prod.fst ++ ["confirm"]).find?
          (· ∉ filled.markAllTouched.fields) = some field := by
        have husername := hdeclared "username" (by decide)
        have hemail := hdeclared "email" (by decide)
        have hage := hdeclared "age" (by decide)
        have hneeded : corrections.map Prod.fst ++ ["confirm"] =
            ["username", "email", "facebook", "age", "password", "confirm"] := rfl
        rw [hfields, ← hmissing, hneeded]
        simp only [List.find?_cons, husername, hemail, hage, not_true_eq_false, decide_false]
      obtain ⟨hfailure, houtput⟩ := runOn_of_correct_error hfill (correct_eq_error hlater)
      have hnot : field ∉ firstTouched := by
        intro hfield
        have hundeclared := List.find?_some hmissing
        rw [decide_eq_true_eq] at hundeclared
        exact hundeclared (hdeclared field hfield)
      exact ⟨hfailure, fun hfield => absurd hfield hnot, fun _ => ⟨filled, hfill, houtput⟩⟩

/-- A session that finds all fields that it needs comes to its end. -/
theorem exists_ended (hr : Unused r) (hdeclared : ∀ field ∈ needed, field ∈ r.fields) :
    ∃ filled corrected, fillIn r = .ok filled ∧
      correct filled.markAllTouched = .ok corrected ∧ Ended r corrected := by
  have hfirst : ∀ field ∈ firstTouched, field ∈ r.fields := by
    intro field hfield
    have hsubset : firstTouched ⊆ needed := by decide
    exact hdeclared field (hsubset hfield)
  obtain ⟨filled, writes, hfill, hread, hsubmitted⟩ := exists_fillIn hfirst
  obtain ⟨written, failures, corrected, hwritten, hchecked, hcorrect, hsame⟩ :=
    exists_correct (r := submittedWith r writes) (by rwa [fields_submittedWith])
  refine ⟨filled, corrected, hfill, by rw [hsubmitted, hcorrect], hdeclared, ?_, ?_⟩
  · rw [hsame, withoutFailures_corrected hr hread]
  · exact isFresh_corrected hr hdeclared hread hwritten hchecked

/-- The events before a session leave what it shows as it is, and its last event. -/
theorem output_after (events : List LogEvent) : (o.after events).output = o.output := by
  rw [Outcome.output, Outcome.after, Entry.lines_append, Entry.lines_map_event, List.nil_append,
    Outcome.output]

theorem getLast?_events_after (events : List LogEvent) {e : LogEvent}
    (h : o.events.getLast? = some e) : (o.after events).events.getLast? = some e := by
  rw [Outcome.events, Outcome.after, events_append, List.getLast?_append]
  rw [Outcome.events] at h
  rw [h, Option.some_or]

theorem eq_info_of_verdict (h : verdict corrected = report .info "Signup form is valid") :
    corrected.validateAll.1 = true := by
  unfold verdict at h
  split at h
  · assumption
  · exact absurd (congrArg LogEvent.level h) nofun

/-- **What a session shows.**  A session with a definition that can be built comes to its end
exactly when all needed fields are declared.  Otherwise the first one that is missing is the
error; nothing has been shown by then if it is one of the fields that the user leaves, and
the form has been shown twice if it is another.  The listing of the end has one line for each
field in the order of the declarations, which is about the last values of the whole form,
whatever rules the fields have; and a form that is said to be valid has no cross in it. -/
theorem session_outcome (h : d.build = .ok built) (ho : SessionWith d o) :
    let declared := d.fields.map RuleSpec.field
    (o.failure = none ↔ ∀ field ∈ needed, field ∈ declared) ∧
      (∀ field, needed.find? (· ∉ declared) = some field →
        o.failure = some (RuleError.unknownField field).message ∧
          (field ∈ firstTouched → o.output = []) ∧
          (field ∉ firstTouched →
            ∃ filled, fillIn built = .ok filled ∧ o.output = submission filled)) ∧
      (o.failure = none → ∃ filled corrected, fillIn built = .ok filled ∧
        correct filled.markAllTouched = .ok corrected ∧ corrected.lookup = finalLookup ∧
        o.output = submission filled ++
          "" :: "After corrections:" :: listing corrected (some overrides) ∧
        List.Forall₂ (FinalLine d) d.fields (listing corrected (some overrides)) ∧
        (o.events.getLast? = some (report .info "Signup form is valid") →
          listing corrected (some overrides) = d.fields.map fun spec => "  ✓ " ++ spec.field)) := by
  intro declared
  have hdeclared : built.fields = declared :=
    Registry.fields_of_install (Registry.install_of_build h)
  obtain ⟨events, rfl⟩ := ho.eq_after h
  have hfailure : ((runOn built).after events).failure = (runOn built).failure := rfl
  rw [output_after, hfailure, ← hdeclared]
  cases hfind : needed.find? (· ∉ built.fields) with
  | some field =>
      obtain ⟨hfails, hoptions⟩ := runOn_of_missing hfind
      have hundeclared : field ∈ needed ∧ field ∉ built.fields :=
        ⟨List.mem_of_find?_eq_some hfind, by simpa using List.find?_some hfind⟩
      refine ⟨?_, ?_, ?_⟩
      · rw [hfails]
        constructor
        · nofun
        · intro hall
          exact absurd (hall field hundeclared.1) hundeclared.2
      · intro first hfirst
        obtain rfl := Option.some.inj hfirst
        exact ⟨hfails, hoptions⟩
      · rw [hfails]
        nofun
  | none =>
      have hall : ∀ field ∈ needed, field ∈ built.fields := by
        intro field hfield
        simpa using List.find?_eq_none.1 hfind field hfield
      obtain ⟨filled, corrected, hfill, hcorrect, hended⟩ := exists_ended (unused_of_build h) hall
      obtain ⟨hends, hshown, hlast⟩ := runOn_of_correct hfill hcorrect
      refine ⟨iff_of_true hends hall, nofun, fun _ => ?_⟩
      refine ⟨filled, corrected, hfill, hcorrect, hended.lookup_eq, hshown,
        hended.forall₂_finalLine h, ?_⟩
      rw [getLast?_events_after events hlast, Option.some.injEq]
      intro hvalid
      exact hended.listing_of_valid h (eq_info_of_verdict hvalid)

/-- Fields that have to agree with each other in a circle do not keep a session from its end,
where each of them is listed as it is by then. -/
theorem session_outcome_of_circle :
    let d : Definition := ⟨[.new "username" "matches[email]", .new "email" "matches[username]",
      .new "age" "min[18]|matches[facebook]", .new "facebook" "matches[age]",
      .new "password" "matches[confirm]", .new "confirm" "matches[password]"], .empty⟩
    ∃ built filled corrected, d.build = .ok built ∧ (run d).failure = none ∧
      (run d).output = submission filled ++
        "" :: "After corrections:" :: listing corrected (some overrides) ∧
      List.Forall₂ (FinalLine d) d.fields (listing corrected (some overrides)) ∧
      listing corrected (some overrides) = [
        "  ✗ username   This field must match the other field",
        "  ✗ email      This field must match the other field",
        "  ✗ age        This field must match the other field",
        "  ✗ facebook   This field must match the other field",
        "  ✓ password", "  ✓ confirm"] := by
  intro d
  have hlisted : (d.build.toOption.bind fun built => (fillIn built).toOption.bind fun filled =>
      (correct filled.markAllTouched).toOption.map (listing · (some overrides))) = some [
        "  ✗ username   This field must match the other field",
        "  ✗ email      This field must match the other field",
        "  ✗ age        This field must match the other field",
        "  ✗ facebook   This field must match the other field",
        "  ✓ password", "  ✓ confirm"] := by decide +kernel
  cases hbuild : d.build with
  | error e =>
      rw [hbuild] at hlisted
      contradiction
  | ok built =>
      obtain ⟨hends, -, hshown⟩ := session_outcome hbuild .given
      have hdeclared : ∀ field ∈ needed, field ∈ d.fields.map RuleSpec.field := by decide
      have hend : (run d).failure = none := hends.2 hdeclared
      obtain ⟨filled, corrected, hfill, hcorrect, -, houtput, hlines, -⟩ := hshown hend
      rw [hbuild, Except.toOption, Option.bind_some, hfill, Except.toOption, Option.bind_some,
        hcorrect, Except.toOption, Option.map_some, Option.some.injEq] at hlisted
      exact ⟨built, filled, corrected, rfl, hend, houtput, hlines, hlisted⟩

end

end FormRules.Signup
