import FormRules.Proofs.Form.Run
import Mathlib.Data.List.Induction

/-!
# Histories of forms

The history of a run lists its calls with their answers, in the order in which
they were made.  A call counts as an installation if it was accepted; a call
that was refused has left the form as it was.
-/

namespace FormRules

/-- The call was not refused. -/
def Answer.isAccepted : Answer → Bool
  | .refused _ => false
  | _ => true

/-- The specifications that a call is to install. -/
def Action.specs? : Action → Option (List RuleSpec)
  | .install specs => some specs
  | .installDefinition d => some d.fields
  | _ => none

/-- The specifications that a call has installed. -/
def installed? (call : Action × Answer) : Option (List RuleSpec) :=
  if call.2.isAccepted then call.1.specs? else none

namespace Registry

section

variable {α : Type} (act : Registry → α → Answer × Registry) (r : Registry)

/-- Some calls, each with its answer. -/
def history : Registry → List α → List (α × Answer)
  | _, [] => []
  | r, a :: calls => (a, (act r a).1) :: history (act r a).2 calls

theorem runBy_concat (calls : List α) (a : α) :
    r.runBy act (calls ++ [a]) = (act (r.runBy act calls) a).2 := by
  unfold runBy
  rw [List.foldl_append]
  rfl

theorem history_concat (calls : List α) (a : α) :
    r.history act (calls ++ [a]) =
      r.history act calls ++ [(a, (act (r.runBy act calls) a).1)] := by
  induction calls generalizing r with
  | nil => rfl
  | cons first calls ih =>
      rw [List.cons_append, history, history, ih, List.cons_append]
      rfl

variable {act} {r}

/-- What holds of a form and its history at the start, and is kept by every call
with its answer, holds after every run. -/
theorem history_induction {P : Registry → List (α × Answer) → Prop} (h : P r [])
    (hstep : ∀ r calls a, P r calls → P (act r a).2 (calls ++ [(a, (act r a).1)]))
    (calls : List α) : P (r.runBy act calls) (r.history act calls) := by
  induction calls using List.reverseRecOn with
  | nil => exact h
  | append_singleton calls a ih =>
      rw [runBy_concat, history_concat]
      exact hstep _ _ a ih

end

section

variable {r : Registry} {a : Action} {specs : List RuleSpec}

/-- A call to install is refused and leaves the form, or it installs its
specifications, maybe with texts. -/
theorem step_of_specs? (h : a.specs? = some specs) :
    (∃ e, r.step a = (.refused e, r)) ∨
      ∃ answer installed messages, answer.isAccepted = true ∧
        r.install specs = ⟨.ok installed.entries, installed⟩ ∧
        r.step a = (answer, installed.withMessages messages) := by
  cases a with
  | install specs' =>
      obtain rfl := Option.some.inj h
      rcases r.install_cases specs' with ⟨e, -, hinstall⟩ | ⟨installed, -, -, -, -, hinstall⟩ <;>
        rw [step, hinstall]
      · exact .inl ⟨e, rfl⟩
      · exact .inr ⟨.installed installed.entries, installed, installed.messages, rfl, rfl, rfl⟩
  | installDefinition d =>
      obtain rfl := Option.some.inj h
      rcases installInto_cases d r with ⟨e, -, hinto⟩ | ⟨installed, hinstall, hinto⟩ <;>
        rw [step, hinto]
      · exact .inl ⟨e, rfl⟩
      · exact .inr ⟨.done, installed, installed.messages.extend d.messages, rfl, hinstall, rfl⟩
  | setValue | patchValues | markTouched | markAllTouched | validate | validateAll | reset
  | setMessage | extendMessages | replaceMessages | isValid | errors | item => contradiction

/-- A call that counts as an installation replaces the fields. -/
theorem install_of_installed? (h : installed? (a, (r.step a).1) = some specs) :
    ∃ installed messages, r.install specs = ⟨.ok installed.entries, installed⟩ ∧
      (r.step a).2 = installed.withMessages messages := by
  unfold installed? at h
  split at h
  · rename_i haccepted
    rcases step_of_specs? h with ⟨e, hrefused⟩ | ⟨answer, installed, messages, -, hinstall, hafter⟩
    · rw [hrefused] at haccepted
      contradiction
    · exact ⟨installed, messages, hinstall, by rw [hafter]⟩
  · contradiction

/-- A call to install that does not count has left the form as it was. -/
theorem step_of_installed?_eq_none (h : installed? (a, (r.step a).1) = none)
    (hspecs : a.specs? = some specs) : (r.step a).2 = r := by
  rcases step_of_specs? (r := r) hspecs with
    ⟨e, hrefused⟩ | ⟨answer, installed, messages, haccepted, -, hafter⟩
  · rw [hrefused]
  · rw [hafter, installed?, if_pos haccepted, hspecs] at h
    contradiction

end

end Registry

end FormRules
