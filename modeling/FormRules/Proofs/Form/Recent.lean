import FormRules.Proofs.Form.History
import FormRules.Proofs.Form.Install
import FormRules.Proofs.Form.Patch
import Mathlib.Data.List.DropRight

/-!
# What recent calls leave

The value and the marks of a field are what the calls since the last accepted
installation or the last reset have made of it.  The value is the one written
last, the field is dirty if there was a write, and it is touched if it was left
or all fields were.
-/

namespace FormRules

/-- The call starts all fields afresh. -/
def restarts (call : Action × Answer) : Bool :=
  match call.1 with
  | .reset => true
  | _ => (installed? call).isSome

/-- The calls since the last one that starts all fields afresh. -/
def recent (calls : List (Action × Answer)) : List (Action × Answer) :=
  calls.rtakeWhile fun call => !restarts call

/-- The value that a call has written to a field. -/
def written? (field : String) (call : Action × Answer) : Option Value :=
  match call.1 with
  | .setValue name value => if call.2.isAccepted ∧ name = field then some value else none
  | .patchValues members =>
      if call.2.isAccepted then (Json.member? members field).bind Value.ofJson? else none
  | _ => none

/-- The value that was written to a field last. -/
def lastWritten? (field : String) (calls : List (Action × Answer)) : Option Value :=
  (calls.filterMap (written? field)).getLast?

/-- The call is one to leave the field, or to leave all fields. -/
def touches (field : String) (call : Action × Answer) : Bool :=
  match call.1 with
  | .markTouched name => name == field
  | .markAllTouched => true
  | _ => false

/-- The value and the marks of a field are what the calls have made of a field
that nobody had seen. -/
structure Control.Reflects (calls : List (Action × Answer)) (c : Control) : Prop where
  value : c.state.value = (lastWritten? c.name calls).getD .null
  dirty : c.state.dirty = calls.any fun call => (written? c.name call).isSome
  touched : c.state.touched = calls.any (touches c.name)

/-- The call changes the value and the marks of a field as it says. -/
structure FieldState.Follows (field : String) (call : Action × Answer)
    (before after : FieldState) : Prop where
  value : after.value = (written? field call).getD before.value
  dirty : after.dirty = (before.dirty || (written? field call).isSome)
  touched : after.touched = (before.touched || touches field call)

section

variable {calls : List (Action × Answer)} {call : Action × Answer} {field : String}

theorem recent_concat_of_restarts (h : restarts call = true) : recent (calls ++ [call]) = [] := by
  rw [recent, List.rtakeWhile_concat, if_neg (by simp [h])]

theorem recent_concat (h : restarts call = false) :
    recent (calls ++ [call]) = recent calls ++ [call] := by
  rw [recent, List.rtakeWhile_concat, if_pos (by simp [h])]
  rfl

/-- A call that is refused has written nothing. -/
theorem written?_refused {a : Action} {e : RuleError} : written? field (a, .refused e) = none := by
  cases a <;> simp [written?, Answer.isAccepted]

theorem lastWritten?_concat (field : String) (calls : List (Action × Answer))
    (call : Action × Answer) :
    lastWritten? field (calls ++ [call]) = (written? field call).or (lastWritten? field calls) := by
  unfold lastWritten?
  rw [List.filterMap_append, List.getLast?_append]
  cases hwritten : written? field call with
  | none => simp [hwritten]
  | some value => simp [hwritten]

/-- A call that does not touch a field may only write to it. -/
theorem FieldState.follows_overwrite (h : touches field call = false) (s : FieldState) :
    FieldState.Follows field call s (s.overwrite (written? field call)) := by
  cases hwritten : written? field call with
  | none => exact ⟨by rw [hwritten]; rfl, by simp [overwrite, hwritten], by simp [overwrite, h]⟩
  | some value =>
      exact ⟨by rw [hwritten]; rfl, by simp [overwrite, setValue, hwritten],
        by simp [overwrite, setValue, h]⟩

/-- A call that touches a field and writes nothing to it marks it as touched. -/
theorem FieldState.follows_markTouched (hwritten : written? field call = none)
    (h : touches field call = true) (s : FieldState) :
    FieldState.Follows field call s s.markTouched :=
  ⟨by rw [hwritten]; rfl, by simp [markTouched, hwritten], by simp [markTouched, h]⟩

/-- What a call makes of a field adds to what the calls before have made of
it. -/
theorem Control.Reflects.concat {before after : Control} (h : before.Reflects calls)
    (hname : after.name = before.name)
    (hfollows : FieldState.Follows before.name call before.state after.state) :
    after.Reflects (calls ++ [call]) := by
  constructor
  · rw [hname, lastWritten?_concat, hfollows.value, h.value]
    cases written? before.name call <;> rfl
  · rw [hname, hfollows.dirty, h.dirty, List.any_append]
    simp
  · rw [hname, hfollows.touched, h.touched, List.any_append]
    simp

end

namespace Registry

/-- A call leaves the fields where they are and changes their states as it
says. -/
def Obeys (r : Registry) (call : Action × Answer) (after : Registry) : Prop :=
  List.Forall₂ (fun before after => after.name = before.name ∧
    FieldState.Follows before.name call before.state after.state) r.controls after.controls

section

variable {r mid after : Registry} {call : Action × Answer} {a : Action}

theorem obeys_mapStates {f : Control → FieldState → FieldState}
    (h : ∀ c ∈ r.controls, FieldState.Follows c.name call c.state (f c c.state)) :
    r.Obeys call (r.mapStates f) := by
  rw [Obeys, controls_mapStates, List.forall₂_map_right_iff, List.forall₂_same]
  intro c hc
  exact ⟨rfl, h c hc⟩

/-- A call that writes nothing and touches no field of the form may leave the
fields as they are. -/
theorem obeys_self (hwritten : ∀ field, written? field call = none)
    (htouches : ∀ c ∈ r.controls, touches c.name call = false) : r.Obeys call r := by
  rw [Obeys, List.forall₂_same]
  intro c hc
  have hfollows := FieldState.follows_overwrite (htouches c hc) c.state
  rw [hwritten] at hfollows
  exact ⟨rfl, hfollows⟩

/-- Failures are not among the things that a call is about. -/
theorem Obeys.mapStates (h : r.Obeys call mid) {f : Control → FieldState → FieldState}
    (hf : ∀ c state, (f c state).setFailures .empty = state.setFailures .empty) :
    r.Obeys call (mid.mapStates f) := by
  rw [Obeys, controls_mapStates, List.forall₂_map_right_iff]
  refine List.Forall₂.imp ?_ h
  rintro before c ⟨hname, hfollows⟩
  have hsame := hf c c.state
  refine ⟨hname, ?_, ?_, ?_⟩
  · exact (congrArg FieldState.value hsame).trans hfollows.value
  · exact (congrArg FieldState.dirty hsame).trans hfollows.dirty
  · exact (congrArg FieldState.touched hsame).trans hfollows.touched

theorem Obeys.storeFailures (h : r.Obeys call mid) (c : Control) :
    r.Obeys call (mid.storeFailures c) := by
  rw [Registry.storeFailures, modify_eq_mapStates]
  apply h.mapStates
  intro before state
  split <;> rfl

theorem Obeys.storeAllFailures (h : r.Obeys call mid) : r.Obeys call mid.storeAllFailures := by
  apply h.mapStates
  intro before state
  rfl

/-- A write that is accepted changes the field written. -/
theorem obeys_setValue {field : String} {value : Value} {answer : Answer}
    (haccepted : answer.isAccepted = true) :
    r.Obeys (.setValue field value, answer) (r.modify field (.setValue value)) := by
  rw [modify_eq_mapStates]
  apply obeys_mapStates
  intro c _
  have hfollows : FieldState.Follows c.name (.setValue field value, answer) c.state _ :=
    FieldState.follows_overwrite rfl c.state
  by_cases hname : c.name = field
  · have hwritten : written? c.name (.setValue field value, answer) = some value :=
      if_pos ⟨haccepted, hname.symm⟩
    rw [hwritten] at hfollows
    rwa [if_pos hname]
  · have hwritten : written? c.name (.setValue field value, answer) = none :=
      if_neg fun h => hname h.2.symm
    rw [hwritten] at hfollows
    rwa [if_neg hname]

/-- A patch that is accepted writes the last value for each field. -/
theorem obeys_patchValues {members : List (String × Json)} {writes : List (String × Value)}
    {answer : Answer} (haccepted : answer.isAccepted = true)
    (hread : r.readPatch members = .ok writes) :
    r.Obeys (.patchValues members, answer) (r.writeAll writes) := by
  rw [writeAll_eq_mapStates]
  apply obeys_mapStates
  intro c hc
  have hwritten : written? c.name (.patchValues members, answer) = lastOf writes c.name := by
    rw [lastOf_readPatch hread (r.name_mem_fields hc)]
    exact if_pos haccepted
  rw [← hwritten]
  exact FieldState.follows_overwrite rfl c.state

/-- A mark touches the field marked. -/
theorem obeys_markTouched {field : String} {answer : Answer} :
    r.Obeys (.markTouched field, answer) (r.modify field .markTouched) := by
  rw [modify_eq_mapStates]
  apply obeys_mapStates
  intro c _
  by_cases hname : c.name = field
  · rw [if_pos hname]
    exact FieldState.follows_markTouched rfl (by simp [touches, hname]) c.state
  · rw [if_neg hname]
    exact FieldState.follows_overwrite (by simp [touches, Ne.symm hname]) c.state

/-- A call that is refused leaves the fields, unless it touches them. -/
theorem obeys_refused {e : RuleError}
    (htouches : ∀ c ∈ r.controls, touches c.name (a, .refused e) = false) :
    r.Obeys (a, .refused e) r :=
  obeys_self (fun _ => written?_refused) htouches

/-- Every call that does not start the fields afresh changes them as it says. -/
theorem obeys_step (h : restarts (a, (r.step a).1) = false) :
    r.Obeys (a, (r.step a).1) (r.step a).2 := by
  cases a with
  | install specs =>
      rw [step_of_installed?_eq_none (by simpa [restarts] using h) rfl]
      exact obeys_self (fun _ => rfl) (fun _ _ => rfl)
  | installDefinition d =>
      rw [step_of_installed?_eq_none (by simpa [restarts] using h) rfl]
      exact obeys_self (fun _ => rfl) (fun _ _ => rfl)
  | setValue field value =>
      rcases r.setValue_cases field value with ⟨-, hset⟩ | ⟨c, -, -, hset⟩ <;> rw [step, hset]
      · exact obeys_refused fun _ _ => rfl
      · exact (obeys_setValue rfl).storeFailures c
  | patchValues members =>
      rcases r.patchValues_cases members with ⟨e, -, hpatch⟩ | ⟨writes, hread, hpatch⟩ <;>
        rw [step, hpatch]
      · exact obeys_refused fun _ _ => rfl
      · exact (obeys_patchValues rfl hread).storeAllFailures
  | markTouched field =>
      rcases r.markTouched_cases field with ⟨hundeclared, htouch⟩ | ⟨-, htouch⟩ <;>
        rw [step, htouch]
      · apply obeys_refused
        intro c hc
        have hname : field ≠ c.name := fun h => hundeclared (h ▸ r.name_mem_fields hc)
        simp [touches, hname]
      · exact obeys_markTouched
  | markAllTouched =>
      apply obeys_mapStates
      intro c _
      exact FieldState.follows_markTouched rfl rfl c.state
  | validate field =>
      rcases r.validate_cases field with ⟨-, hvalidate⟩ | ⟨c, -, hvalidate⟩ <;>
        rw [step, hvalidate]
      · exact obeys_refused fun _ _ => rfl
      · exact (obeys_self (fun _ => rfl) (fun _ _ => rfl)).storeFailures c
  | validateAll =>
      rw [step, validateAll_eq]
      exact (obeys_self (fun _ => rfl) (fun _ _ => rfl)).storeAllFailures
  | reset => contradiction
  | setMessage | extendMessages | replaceMessages | isValid | errors | item =>
      exact obeys_self (fun _ => rfl) (fun _ _ => rfl)

/-- A call that starts the fields afresh leaves them as nobody has seen them. -/
theorem reflects_nil_of_restarts {c : Control} (h : restarts (a, (r.step a).1) = true)
    (hc : c ∈ (r.step a).2.controls) : c.Reflects [] := by
  unfold restarts at h
  split at h
  · rename_i hreset
    obtain rfl : a = .reset := hreset
    obtain ⟨before, -, rfl⟩ := r.mem_controls_mapStates.1 hc
    exact ⟨rfl, rfl, rfl⟩
  · obtain ⟨specs, hspecs⟩ := Option.isSome_iff_exists.1 h
    obtain ⟨installed, messages, hinstall, hafter⟩ := install_of_installed? hspecs
    rw [hafter] at hc
    obtain ⟨spec, -, hdeclares⟩ := declares_of_install hinstall hc
    exact ⟨hdeclares.value, hdeclares.pristine, hdeclares.untouched⟩

/-- Every call adds to what the recent calls have made of the fields, or starts
them afresh. -/
theorem reflects_step {calls : List (Action × Answer)}
    (h : ∀ c ∈ r.controls, c.Reflects (recent calls)) :
    ∀ c ∈ (r.step a).2.controls, c.Reflects (recent (calls ++ [(a, (r.step a).1)])) := by
  intro c hc
  cases hrestarts : restarts (a, (r.step a).1) with
  | true =>
      rw [recent_concat_of_restarts hrestarts]
      exact reflects_nil_of_restarts hrestarts hc
  | false =>
      rw [recent_concat hrestarts]
      obtain ⟨before, hbefore, hname, hfollows⟩ :=
        Traversal.exists_mem_of_forall₂ (obeys_step hrestarts) hc
      exact (h before hbefore).concat hname hfollows

end

/-- After any run of calls on a new form, whether they are refused or not, the
calls since the last accepted installation or the last reset tell the state of
every field.  Its value is the one written last, it is dirty if there was a
write, and it is touched if there was a call to leave it.  Only a field that has
been written and touched since then can show texts. -/
theorem state_of_recent_calls (factory : Factory) (messages : MessageTable)
    (actions : List Action) :
    let start := create factory messages
    let r := start.run actions
    let calls := recent (start.history step actions)
    (∀ c ∈ r.controls, c.state.value = (lastWritten? c.name calls).getD .null) ∧
    (∀ c ∈ r.controls,
      c.state.dirty = true ↔ ∃ call ∈ calls, (written? c.name call).isSome = true) ∧
    (∀ c ∈ r.controls, c.state.touched = true ↔ ∃ call ∈ calls, touches c.name call = true) ∧
    (∀ field ∈ r.fields, ∀ value,
      r.item? field = some value ↔ lastWritten? field calls = some value ∧ value ≠ .null) ∧
    ∀ field overrides texts, r.errors field overrides = some texts →
      (∃ call ∈ calls, (written? field call).isSome = true) ∧
        ∃ call ∈ calls, touches field call = true := by
  intro start r calls
  have hreflects : ∀ c ∈ r.controls, c.Reflects calls :=
    history_induction (P := fun r calls => ∀ c ∈ r.controls, c.Reflects (recent calls))
      (fun _ hc => absurd hc List.not_mem_nil) (fun _ _ _ h => reflects_step h) actions
  have hdirty : ∀ c ∈ r.controls,
      c.state.dirty = true ↔ ∃ call ∈ calls, (written? c.name call).isSome = true := by
    intro c hc
    rw [(hreflects c hc).dirty, List.any_eq_true]
  have htouched : ∀ c ∈ r.controls,
      c.state.touched = true ↔ ∃ call ∈ calls, touches c.name call = true := by
    intro c hc
    rw [(hreflects c hc).touched, List.any_eq_true]
  refine ⟨fun c hc => (hreflects c hc).value, hdirty, htouched, ?_, ?_⟩
  · intro field hfield value
    obtain ⟨c, hc⟩ := r.exists_control?_of_mem hfield
    obtain ⟨hmem, rfl⟩ := r.control?_eq_some_iff.1 hc
    rw [r.item?_eq_some_iff hc, (hreflects c hmem).value]
    cases lastWritten? c.name calls with
    | none => simp [eq_comm]
    | some last => simp
  · intro field overrides texts herrors
    obtain ⟨c, hc, htouched', hdirty', -⟩ := errors_eq_some herrors
    obtain ⟨hmem, rfl⟩ := r.control?_eq_some_iff.1 hc
    exact ⟨(hdirty c hmem).1 hdirty', (htouched c hmem).1 htouched'⟩

end Registry

end FormRules
