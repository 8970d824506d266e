import FormRules.Proofs.Form.Calls

/-!
# Runs of calls on a form

An action is a call on a form.  A step of a form is an action with its answer
and the form after it; an action that is refused leaves the form as it is.  A
run is a sequence of steps.  `Registry.Transition` lists what a step can do to a
form, so a property holds after every run when the transitions keep it.
-/

namespace FormRules

/-- A call on a form. -/
inductive Action where
  | install (specs : List RuleSpec)
  | installDefinition (d : Definition)
  | setValue (field : String) (value : Value)
  | patchValues (members : List (String × Json))
  | markTouched (field : String)
  | markAllTouched
  | validate (field : String)
  | validateAll
  | reset
  | setMessage (code : Code) (text : String)
  | extendMessages (texts : MessageTable)
  | replaceMessages (texts : MessageTable)
  | isValid
  | errors (field : String) (overrides : Option MessageTable)
  | item (field : String)

/-- What a call answers. -/
inductive Answer where
  | done
  | refused (e : RuleError)
  | installed (entries : List (String × Control))
  | failures (codes : FailureSet)
  | verdict (valid : Bool)
  | texts (shown : Option (List String))
  | value (current : Option Value)

namespace Registry

/-- The answer to a call that may be refused, with the form after the call. -/
def Reply.conclude {α : Type} (x : Reply α) (answer : α → Answer) : Answer × Registry :=
  match x.result with
  | .ok a => (answer a, x.form)
  | .error e => (.refused e, x.form)

/-- One call on a form, with its answer and the form after it. -/
def step (r : Registry) : Action → Answer × Registry
  | .install specs => (r.install specs).conclude .installed
  | .installDefinition d => (d.installInto r).conclude fun _ => .done
  | .setValue field value => (r.setValue field value).conclude .failures
  | .patchValues members => (r.patchValues members).conclude fun _ => .done
  | .markTouched field => (r.markTouched field).conclude fun _ => .done
  | .markAllTouched => (.done, r.markAllTouched)
  | .validate field => (r.validate field).conclude .failures
  | .validateAll => (.verdict r.validateAll.1, r.validateAll.2)
  | .reset => (.done, r.reset)
  | .setMessage code text => (.done, r.withMessages (r.messages.set code text))
  | .extendMessages texts => (.done, r.withMessages (r.messages.extend texts))
  | .replaceMessages texts => (.done, r.withMessages texts)
  | .isValid => (.verdict r.isValid, r)
  | .errors field overrides => (.texts (r.errors field overrides), r)
  | .item field => (.value (r.item? field), r)

/-- The form after some calls of one kind. -/
def runBy {α : Type} (act : Registry → α → Answer × Registry) (r : Registry) (calls : List α) :
    Registry :=
  calls.foldl (fun r a => (act r a).2) r

/-- The form after a sequence of calls. -/
def run (r : Registry) (actions : List Action) : Registry := r.runBy step actions

/-- What a step can do to a form. -/
inductive Transition (r : Registry) : Registry → Prop
  /-- The call only looks at the form, or it is refused. -/
  | stay : Transition r r
  | installed {specs : List RuleSpec} {after : Registry}
      (h : r.install specs = ⟨.ok after.entries, after⟩)
      (messages : MessageTable) : Transition r (after.withMessages messages)
  | relabelled (messages : MessageTable) : Transition r (r.withMessages messages)
  | checked {c : Control} (hc : c ∈ r.controls) : Transition r (r.storeFailures c)
  | written {field : String} {value : Value} {c : Control}
      (hc : c ∈ (r.modify field (.setValue value)).controls) (hname : c.name = field) :
      Transition r ((r.modify field (.setValue value)).storeFailures c)
  | patched (writes : List (String × Value)) :
      Transition r (r.writeAll writes).storeAllFailures
  | checkedAll : Transition r r.storeAllFailures
  | touched (field : String) : Transition r (r.modify field .markTouched)
  | touchedAll : Transition r r.markAllTouched
  | cleared : Transition r r.reset

/-- Every step is one of the transitions. -/
theorem transition_step (r : Registry) (a : Action) : r.Transition (r.step a).2 := by
  cases a with
  | install specs =>
      rcases r.install_cases specs with ⟨e, -, h⟩ | ⟨after, -, -, -, -, h⟩ <;> rw [step, h]
      · exact .stay
      · have hmessages : after.withMessages after.messages = after := rfl
        exact hmessages ▸ .installed h after.messages
  | installDefinition d =>
      rcases installInto_cases d r with ⟨e, -, h⟩ | ⟨installed, hinstall, h⟩ <;> rw [step, h]
      · exact .stay
      · exact .installed hinstall _
  | setValue field value =>
      rcases r.setValue_cases field value with ⟨-, h⟩ | ⟨c, hc, hname, h⟩ <;> rw [step, h]
      · exact .stay
      · exact .written hc hname
  | patchValues members =>
      rcases r.patchValues_cases members with ⟨e, -, h⟩ | ⟨writes, -, h⟩ <;> rw [step, h]
      · exact .stay
      · exact .patched writes
  | markTouched field =>
      rcases r.markTouched_cases field with ⟨-, h⟩ | ⟨-, h⟩ <;> rw [step, h]
      · exact .stay
      · exact .touched field
  | markAllTouched => exact .touchedAll
  | validate field =>
      rcases r.validate_cases field with ⟨-, h⟩ | ⟨c, hc, h⟩ <;> rw [step, h]
      · exact .stay
      · exact .checked ((control?_eq_some_iff _).1 hc).1
  | validateAll =>
      rw [step, validateAll_eq]
      exact .checkedAll
  | reset => exact .cleared
  | setMessage code text => exact .relabelled _
  | extendMessages texts => exact .relabelled _
  | replaceMessages texts => exact .relabelled _
  | isValid => exact .stay
  | errors field overrides => exact .stay
  | item field => exact .stay

/-- What holds of a form and is kept by each of some calls holds after them. -/
theorem runBy_induction {α : Type} {act : Registry → α → Answer × Registry} {r : Registry}
    {P : Registry → Prop} {calls : List α} (hstep : ∀ r, ∀ a ∈ calls, P r → P (act r a).2)
    (h : P r) : P (r.runBy act calls) := by
  induction calls generalizing r with
  | nil => exact h
  | cons a calls ih =>
      have hnext : P (act r a).2 := hstep r a List.mem_cons_self h
      exact ih (fun r later hlater => hstep r later (List.mem_cons_of_mem _ hlater)) hnext

/-- What holds of a form and is kept by every transition holds after every
run. -/
theorem run_induction {P : Registry → Prop}
    (htransition : ∀ r after, r.Transition after → P r → P after) (r : Registry)
    (actions : List Action) (h : P r) : P (r.run actions) :=
  runBy_induction (fun r a _ => htransition r _ (r.transition_step a)) h

end Registry

end FormRules
