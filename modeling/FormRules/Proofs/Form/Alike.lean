import FormRules.Proofs.Form.Install
import FormRules.Proofs.Form.Patch
import FormRules.Proofs.Form.Shape

/-!
# Forms that cannot be told apart

Two forms are alike when they have the same rules, texts and fields, where the
fields may stand in different orders and the installations may be counted from
different numbers.  Fields are found by their names and checked against the
values of other fields, so neither the order nor the count is seen by any call:
alike forms give the same answers in every run, and they stay alike.
-/

namespace FormRules

/-- A way in which two lists of fields may differ.  They hold the same fields,
and they still differ in this way when all fields change alike. -/
structure Arrangement (S : List Control → List Control → Prop) : Prop where
  refl : ∀ controls, S controls controls
  perm : ∀ {controls controls'}, S controls controls' → controls'.Perm controls
  map : ∀ {controls controls'} (f : Control → Control),
    S controls controls' → S (controls.map f) (controls'.map f)

/-- The fields stand in the same order. -/
theorem arrangement_eq : Arrangement (· = ·) where
  refl := fun _ => rfl
  perm := by
    rintro controls _ rfl
    exact .refl controls
  map := fun _ h => congrArg _ h

/-- The fields may stand in any order. -/
theorem arrangement_perm : Arrangement fun controls controls' => controls'.Perm controls where
  refl := List.Perm.refl
  perm := id
  map := fun f h => h.map f

namespace Registry

/-- The forms have the same fields, arranged as `S` allows, and the second one
counts `n` installations more. -/
structure Alike (S : List Control → List Control → Prop) (n : Nat) (r r' : Registry) : Prop where
  resolver : r'.resolver = r.resolver
  messages : r'.messages = r.messages
  controls : S r.controls r'.controls
  generation : r'.generation = r.generation + n

/-- Two calls give the same answer and alike forms. -/
def Likewise {β : Type} (S : List Control → List Control → Prop) (n : Nat)
    (x x' : β × Registry) : Prop :=
  x'.1 = x.1 ∧ x.2.Alike S n x'.2

/-- Two calls that may be refused have the same result and leave alike forms. -/
structure Reply.Agrees {α : Type} (S : List Control → List Control → Prop) (n : Nat)
    (x x' : Reply α) : Prop where
  result : x'.result = x.result
  form : x.form.Alike S n x'.form

section

variable {S : List Control → List Control → Prop} {n : Nat} {r r' : Registry}

theorem Alike.mem_controls_iff (h : r.Alike S n r') (hS : Arrangement S) {c : Control} :
    c ∈ r'.controls ↔ c ∈ r.controls :=
  (hS.perm h.controls).mem_iff

theorem Alike.fields_perm (h : r.Alike S n r') (hS : Arrangement S) :
    r'.fields.Perm r.fields := by
  rw [fields_eq, fields_eq]
  exact (hS.perm h.controls).map Control.name

/-- A name finds the same field in both forms. -/
theorem Alike.control?_eq (h : r.Alike S n r') (hS : Arrangement S) (field : String) :
    r'.control? field = r.control? field := by
  apply Option.ext
  intro c
  rw [r'.control?_eq_some_iff, r.control?_eq_some_iff, h.mem_controls_iff hS]

theorem Alike.item?_eq (h : r.Alike S n r') (hS : Arrangement S) (field : String) :
    r'.item? field = r.item? field := by
  unfold item?
  rw [h.control?_eq hS]

/-- Chains see the same in both forms. -/
theorem Alike.lookup_eq (h : r.Alike S n r') (hS : Arrangement S) : r'.lookup = r.lookup := by
  funext field
  exact h.item?_eq hS field

theorem Alike.mapStates (h : r.Alike S n r') (hS : Arrangement S)
    (f : Control → FieldState → FieldState) : (r.mapStates f).Alike S n (r'.mapStates f) where
  resolver := h.resolver
  messages := h.messages
  controls := by
    rw [controls_mapStates, controls_mapStates]
    exact hS.map _ h.controls
  generation := h.generation

theorem Alike.modify (h : r.Alike S n r') (hS : Arrangement S) (field : String)
    (f : FieldState → FieldState) : (r.modify field f).Alike S n (r'.modify field f) := by
  rw [modify_eq_mapStates, modify_eq_mapStates]
  exact h.mapStates hS _

theorem Alike.withMessages (h : r.Alike S n r') {texts texts' : MessageTable}
    (htexts : texts' = texts) : (r.withMessages texts).Alike S n (r'.withMessages texts') :=
  ⟨h.resolver, htexts, h.controls, h.generation⟩

theorem Alike.storeFailures (h : r.Alike S n r') (hS : Arrangement S) (c : Control) :
    (r.storeFailures c).Alike S n (r'.storeFailures c) := by
  unfold Registry.storeFailures
  rw [h.lookup_eq hS]
  exact h.modify hS _ _

theorem Alike.storeAllFailures (h : r.Alike S n r') (hS : Arrangement S) :
    r.storeAllFailures.Alike S n r'.storeAllFailures := by
  unfold Registry.storeAllFailures
  rw [h.lookup_eq hS]
  exact h.mapStates hS _

theorem Alike.writeAll (h : r.Alike S n r') (hS : Arrangement S)
    (writes : List (String × Value)) : (r.writeAll writes).Alike S n (r'.writeAll writes) := by
  rw [writeAll_eq_mapStates, writeAll_eq_mapStates]
  exact h.mapStates hS _

/-- What all fields of a form have, or one of them lacks, does not depend on
their order. -/
theorem Alike.all_controls_eq (h : r.Alike S n r') (hS : Arrangement S)
    (p : Control → Bool) : r'.controls.all p = r.controls.all p :=
  (hS.perm h.controls).all_eq

theorem Alike.isValid_eq (h : r.Alike S n r') (hS : Arrangement S) : r'.isValid = r.isValid := by
  unfold isValid
  rw [h.lookup_eq hS, h.all_controls_eq hS]

theorem Alike.errors_eq (h : r.Alike S n r') (hS : Arrangement S) (field : String)
    (overrides : Option MessageTable) : r'.errors field overrides = r.errors field overrides := by
  unfold errors
  rw [h.control?_eq hS, h.messages]

theorem Alike.agrees_validate (h : r.Alike S n r') (hS : Arrangement S) (field : String) :
    (r.validate field).Agrees S n (r'.validate field) := by
  unfold validate
  rw [h.control?_eq hS]
  cases r.control? field with
  | none => exact ⟨rfl, h⟩
  | some c =>
      rw [h.lookup_eq hS]
      exact ⟨rfl, h.modify hS field _⟩

theorem Alike.agrees_setValue (h : r.Alike S n r') (hS : Arrangement S) (field : String)
    (value : Value) : (r.setValue field value).Agrees S n (r'.setValue field value) := by
  unfold setValue
  rw [h.control?_eq hS]
  cases r.control? field with
  | none => exact ⟨rfl, h⟩
  | some c => exact (h.modify hS field _).agrees_validate hS field

theorem Alike.agrees_markTouched (h : r.Alike S n r') (hS : Arrangement S) (field : String) :
    (r.markTouched field).Agrees S n (r'.markTouched field) := by
  unfold markTouched
  rw [h.control?_eq hS]
  cases r.control? field with
  | none => exact ⟨rfl, h⟩
  | some c => exact ⟨rfl, h.modify hS field _⟩

/-- A patch is read by the names of the fields, in the order of its members. -/
theorem Alike.readPatch_eq (h : r.Alike S n r') (hS : Arrangement S)
    (members : List (String × Json)) : r'.readPatch members = r.readPatch members := by
  have hdeclared : r'.declaredMembers members = r.declaredMembers members := by
    apply List.filter_congr
    intro m _
    exact decide_eq_decide.2 (h.fields_perm hS).mem_iff
  rw [readPatch_eq_mapM, readPatch_eq_mapM, hdeclared]

theorem Alike.agrees_patchValues (h : r.Alike S n r') (hS : Arrangement S)
    (members : List (String × Json)) :
    (r.patchValues members).Agrees S n (r'.patchValues members) := by
  unfold patchValues
  rw [h.readPatch_eq hS]
  cases r.readPatch members with
  | error e => exact ⟨rfl, h⟩
  | ok writes =>
      dsimp only
      rw [validateAll_eq, validateAll_eq]
      exact ⟨rfl, (h.writeAll hS writes).storeAllFailures hS⟩

/-- Specifications give both forms the same fields in the same order. -/
theorem Alike.agrees_install (h : r.Alike S n r') (hS : Arrangement S) (specs : List RuleSpec) :
    (r.install specs).Agrees S n (r'.install specs) := by
  rcases r.install_cases specs with ⟨e, hbuild, hinstall⟩ | ⟨after, -, -, -, -, hinstall⟩
  · rw [← h.resolver] at hbuild
    rw [hinstall, install_of_buildControls_error hbuild]
    exact ⟨rfl, h⟩
  · obtain ⟨hnodup, hdeclares, hgeneration, hmessages, hresolver⟩ := install_eq_ok_iff.1 hinstall
    -- The fields are declared anew, so only the count can still tell the forms apart.
    let after' : Registry := { after with generation := after.generation + n }
    have hcount : after'.generation = r'.generation + 1 := by
      change after.generation + n = r'.generation + 1
      rw [hgeneration, h.generation]
      omega
    have hinstall' : r'.install specs = ⟨.ok after'.entries, after'⟩ := by
      apply install_eq_ok_iff.2
      rw [h.resolver, h.messages]
      exact ⟨hnodup, hdeclares, hcount, hmessages, hresolver⟩
    rw [hinstall, hinstall']
    exact ⟨rfl, rfl, rfl, hS.refl _, rfl⟩

theorem Alike.agrees_installInto (h : r.Alike S n r') (hS : Arrangement S) (d : Definition) :
    (d.installInto r).Agrees S n (d.installInto r') := by
  have hfields := h.agrees_install hS d.fields
  unfold Definition.installInto Reply.andThen
  rw [hfields.result]
  cases (r.install d.fields).result with
  | error e => exact ⟨rfl, hfields.form⟩
  | ok entries => exact ⟨rfl, hfields.form.withMessages (by rw [hfields.form.messages])⟩

/-- Calls that agree are answered alike. -/
theorem Reply.Agrees.likewise {α : Type} {x x' : Reply α} (h : x.Agrees S n x')
    (answer : α → Answer) : Likewise S n (x.conclude answer) (x'.conclude answer) := by
  unfold Reply.conclude
  rw [h.result]
  cases x.result <;> exact ⟨rfl, h.form⟩

/-- A call on alike forms gives the same answer and keeps them alike. -/
theorem Alike.likewise_step (h : r.Alike S n r') (hS : Arrangement S) (a : Action) :
    Likewise S n (r.step a) (r'.step a) := by
  cases a with
  | install specs => exact (h.agrees_install hS specs).likewise _
  | installDefinition d => exact (h.agrees_installInto hS d).likewise _
  | setValue field value => exact (h.agrees_setValue hS field value).likewise _
  | patchValues members => exact (h.agrees_patchValues hS members).likewise _
  | markTouched field => exact (h.agrees_markTouched hS field).likewise _
  | markAllTouched => exact ⟨rfl, h.mapStates hS fun _ => .markTouched⟩
  | validate field => exact (h.agrees_validate hS field).likewise _
  | validateAll =>
      rw [step, step, validateAll_eq, validateAll_eq, h.isValid_eq hS]
      exact ⟨rfl, h.storeAllFailures hS⟩
  | reset => exact ⟨rfl, h.mapStates hS fun _ _ => .fresh⟩
  | setMessage code text => exact ⟨rfl, h.withMessages (by rw [h.messages])⟩
  | extendMessages texts => exact ⟨rfl, h.withMessages (by rw [h.messages])⟩
  | replaceMessages texts => exact ⟨rfl, h.withMessages rfl⟩
  | isValid => exact ⟨congrArg Answer.verdict (h.isValid_eq hS), h⟩
  | errors field overrides => exact ⟨congrArg Answer.texts (h.errors_eq hS field overrides), h⟩
  | item field => exact ⟨congrArg Answer.value (h.item?_eq hS field), h⟩

theorem Alike.likewise_operate (h : r.Alike S n r') (hS : Arrangement S) (op : Operation) :
    Likewise S n (r.operate op) (r'.operate op) := by
  cases op with
  | form a => exact h.likewise_step hS a
  | field name call =>
      have hfound : (r'.control? name).isSome = (r.control? name).isSome := by
        rw [h.control?_eq hS]
      exact ⟨congrArg Answer.verdict hfound, h.modify hS name call.apply⟩

/-- Alike forms give the same answers in every run and stay alike. -/
theorem Alike.run (h : r.Alike S n r') (hS : Arrangement S) (ops : List Operation) :
    r'.history operate ops = r.history operate ops ∧
      (r.runBy operate ops).Alike S n (r'.runBy operate ops) := by
  -- Both forms change with each operation, so the claim is about any two alike forms.
  induction ops generalizing r r' with
  | nil => exact ⟨rfl, h⟩
  | cons op ops ih =>
      obtain ⟨hanswer, hafter⟩ := h.likewise_operate hS op
      obtain ⟨hanswers, hend⟩ := ih hafter
      refine ⟨?_, hend⟩
      rw [history, history, hanswer, hanswers]

end

end Registry

end FormRules
