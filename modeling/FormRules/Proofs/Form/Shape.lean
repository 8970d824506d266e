import FormRules.Proofs.Form.History
import FormRules.Proofs.Form.Install
import FormRules.Proofs.Form.Writes

/-!
# The shape of a form

The shape of a form are the names of its fields in their order, each with its
chain.  Only an installation that is accepted changes the shape, and it leaves
nothing of the shape before; calls on a single field, past the checks of the
form, cannot change it either.  So the last installation that was accepted
determines the shape after any run.
-/

namespace FormRules

/-- A call on a field of a form that is no call on the form: nothing is
checked. -/
inductive FieldCall where
  | setValue (value : Value)
  | markTouched
  | setFailures (failures : FailureSet)
  | reset

/-- What a call on a field does to its state. -/
def FieldCall.apply : FieldCall → FieldState → FieldState
  | .setValue value => .setValue value
  | .markTouched => .markTouched
  | .setFailures failures => .setFailures failures
  | .reset => fun _ => .fresh

/-- A call on a form or on one of its fields. -/
inductive Operation where
  | form (a : Action)
  | field (name : String) (call : FieldCall)

/-- The specifications that an operation has installed. -/
def Operation.installed? : Operation × Answer → Option (List RuleSpec)
  | (.form a, answer) => FormRules.installed? (a, answer)
  | (.field _ _, _) => none

/-- The field has the name and the chain that the specification gives it. -/
structure RuleSpec.Governs (resolver : Resolver) (spec : RuleSpec) (c : Control) : Prop where
  name : c.name = spec.field
  chain : resolver.compile spec.rules = .ok c.validators

namespace Registry

/-- One operation, with its answer and the form after it.  A call on a field
answers whether there is one. -/
def operate (r : Registry) : Operation → Answer × Registry
  | .form a => r.step a
  | .field name call => (.verdict (r.control? name).isSome, r.modify name call.apply)

/-- The names and the chains of the fields. -/
def shape (r : Registry) : List (String × List Validator) :=
  r.controls.map fun c => (c.name, c.validators)

/-- Two forms have the same fields and count as many installations. -/
structure SameShape (r r' : Registry) : Prop where
  resolver : r'.resolver = r.resolver
  shape : r'.shape = r.shape
  generation : r'.generation = r.generation

section

variable {r r' r'' : Registry}

theorem SameShape.refl (r : Registry) : r.SameShape r := ⟨rfl, rfl, rfl⟩

theorem SameShape.trans (h : r.SameShape r') (h' : r'.SameShape r'') : r.SameShape r'' where
  resolver := h'.resolver.trans h.resolver
  shape := h'.shape.trans h.shape
  generation := h'.generation.trans h.generation

/-- Changes of states keep the shape. -/
theorem sameShape_mapStates (f : Control → FieldState → FieldState) :
    r.SameShape (r.mapStates f) := by
  refine ⟨rfl, ?_, rfl⟩
  rw [shape, controls_mapStates, List.map_map]
  rfl

theorem sameShape_modify (field : String) (f : FieldState → FieldState) :
    r.SameShape (r.modify field f) :=
  r.modify_eq_mapStates field f ▸ sameShape_mapStates _

theorem sameShape_storeFailures (c : Control) : r.SameShape (r.storeFailures c) :=
  sameShape_modify c.name _

theorem sameShape_storeAllFailures : r.SameShape r.storeAllFailures :=
  sameShape_mapStates _

/-- A call that is not to install anything keeps the shape. -/
theorem sameShape_of_specs?_eq_none {a : Action} (h : a.specs? = none) :
    r.SameShape (r.step a).2 := by
  cases a with
  | install specs => contradiction
  | installDefinition d => contradiction
  | setValue field value =>
      rcases r.setValue_cases field value with ⟨-, hset⟩ | ⟨c, -, -, hset⟩ <;> rw [step, hset]
      · exact .refl r
      · exact (sameShape_modify field _).trans (sameShape_storeFailures c)
  | patchValues members =>
      rcases r.patchValues_cases members with ⟨e, -, hpatch⟩ | ⟨writes, -, hpatch⟩ <;>
        rw [step, hpatch]
      · exact .refl r
      · rw [writeAll_eq_mapStates]
        exact (sameShape_mapStates _).trans sameShape_storeAllFailures
  | markTouched field =>
      rcases r.markTouched_cases field with ⟨-, htouch⟩ | ⟨-, htouch⟩ <;> rw [step, htouch]
      · exact .refl r
      · exact sameShape_modify field _
  | validate field =>
      rcases r.validate_cases field with ⟨-, hvalidate⟩ | ⟨c, -, hvalidate⟩ <;>
        rw [step, hvalidate]
      · exact .refl r
      · exact sameShape_storeFailures c
  | validateAll =>
      rw [step, validateAll_eq]
      exact sameShape_storeAllFailures
  | markAllTouched => exact sameShape_mapStates fun _ => .markTouched
  | reset => exact sameShape_mapStates fun _ _ => .fresh
  | setMessage | extendMessages | replaceMessages => exact ⟨rfl, rfl, rfl⟩
  | isValid | errors | item => exact .refl r

/-- An operation that has installed nothing keeps the shape. -/
theorem sameShape_operate {op : Operation}
    (h : Operation.installed? (op, (r.operate op).1) = none) :
    r.SameShape (r.operate op).2 := by
  cases op with
  | field name call => exact sameShape_modify name _
  | form a =>
      cases hspecs : a.specs? with
      | none => exact sameShape_of_specs?_eq_none hspecs
      | some specs =>
          change r.SameShape (r.step a).2
          rw [step_of_installed?_eq_none h hspecs]
          exact .refl r

/-- An operation that has installed specifications gives the form their
fields. -/
theorem install_of_operate {op : Operation} {specs : List RuleSpec}
    (h : Operation.installed? (op, (r.operate op).1) = some specs) :
    ∃ installed messages, r.install specs = ⟨.ok installed.entries, installed⟩ ∧
      (r.operate op).2 = installed.withMessages messages := by
  cases op with
  | field name call => contradiction
  | form a => exact install_of_installed? h

end

/-- The form is as the last of some installations has made it. -/
structure ShapedBy (resolver : Resolver) (installs : List (List RuleSpec)) (r : Registry) :
    Prop where
  resolver_eq : r.resolver = resolver
  governed : List.Forall₂ (RuleSpec.Governs resolver) (installs.getLast?.getD []) r.controls
  generation : r.generation = installs.length

section

variable {resolver : Resolver} {installs : List (List RuleSpec)} {r r' : Registry}

/-- Whether specifications give the names and chains is a matter of the
shape. -/
theorem governs_iff_shape {specs : List RuleSpec} :
    List.Forall₂ (RuleSpec.Governs resolver) specs r.controls ↔
      List.Forall₂ (fun spec entry => entry.1 = spec.field ∧
        resolver.compile spec.rules = .ok entry.2) specs r.shape := by
  rw [shape, List.forall₂_map_right_iff]
  constructor
  · exact List.Forall₂.imp fun _ _ h => ⟨h.name, h.chain⟩
  · exact List.Forall₂.imp fun _ _ h => ⟨h.1, h.2⟩

theorem ShapedBy.of_sameShape (h : r.ShapedBy resolver installs) (hsame : r.SameShape r') :
    r'.ShapedBy resolver installs where
  resolver_eq := hsame.resolver.trans h.resolver_eq
  governed := by
    rw [governs_iff_shape, hsame.shape, ← governs_iff_shape]
    exact h.governed
  generation := hsame.generation.trans h.generation

theorem ShapedBy.install {specs : List RuleSpec} {installed : Registry}
    (h : r.ShapedBy resolver installs)
    (hinstall : r.install specs = ⟨.ok installed.entries, installed⟩) :
    installed.ShapedBy resolver (installs ++ [specs]) := by
  obtain ⟨-, hdeclares, hgeneration, -, hresolver⟩ := install_eq_ok_iff.1 hinstall
  rw [h.resolver_eq] at hdeclares
  refine ⟨hresolver.trans h.resolver_eq, ?_, ?_⟩
  · rw [List.getLast?_concat, Option.getD_some]
    exact hdeclares.imp fun _ _ hdeclares => ⟨hdeclares.name, hdeclares.chain⟩
  · rw [hgeneration, h.generation, List.length_append, List.length_singleton]

/-- Every operation keeps a form as the last installation has made it. -/
theorem ShapedBy.operate {calls : List (Operation × Answer)} {op : Operation}
    (h : r.ShapedBy resolver (calls.filterMap Operation.installed?)) :
    (r.operate op).2.ShapedBy resolver
      ((calls ++ [(op, (r.operate op).1)]).filterMap Operation.installed?) := by
  rw [List.filterMap_append]
  cases hinstalled : Operation.installed? (op, (r.operate op).1) with
  | none =>
      rw [List.filterMap_cons_none hinstalled, List.filterMap_nil, List.append_nil]
      exact h.of_sameShape (sameShape_operate hinstalled)
  | some specs =>
      rw [List.filterMap_cons_some hinstalled, List.filterMap_nil]
      obtain ⟨installed, messages, hinstall, hafter⟩ := install_of_operate hinstalled
      have hshaped := h.install hinstall
      rw [hafter]
      exact ⟨hshaped.resolver_eq, hshaped.governed, hshaped.generation⟩

/-- After every run of operations on a new form, the form is as the last accepted
installation has made it. -/
theorem shapedBy_history (factory : Factory) (messages : MessageTable) (ops : List Operation) :
    ((create factory messages).runBy operate ops).ShapedBy ⟨factory⟩
      (((create factory messages).history operate ops).filterMap Operation.installed?) :=
  history_induction
    (P := fun r calls => r.ShapedBy ⟨factory⟩ (calls.filterMap Operation.installed?))
    ⟨rfl, .nil, rfl⟩ (fun _ _ _ h => h.operate) ops

theorem ShapedBy.fields_eq (h : r.ShapedBy resolver installs) :
    r.fields = (installs.getLast?.getD []).map RuleSpec.field := by
  rw [Registry.fields_eq]
  exact (Traversal.map_eq_map_of_forall₂ h.governed fun _ _ hgoverns => hgoverns.name.symm).symm

/-- The field of each specification is found under its name. -/
theorem exists_control?_of_governs {specs : List RuleSpec} {spec : RuleSpec}
    (h : List.Forall₂ (RuleSpec.Governs resolver) specs r.controls) (hspec : spec ∈ specs) :
    ∃ c, r.control? spec.field = some c ∧ spec.Governs resolver c := by
  obtain ⟨c, hc, hgoverns⟩ := Traversal.exists_result_of_forall₂ h hspec
  exact ⟨c, r.control?_eq_some_iff.2 ⟨hc, hgoverns.name⟩, hgoverns⟩

end

/-- After any run of operations on a new form, whether they are refused or not,
the last installation that was accepted determines the shape of the form.  Its
fields are those of the specifications, in their order and each once, under
their names and with the chains of their rules; nothing is left of the fields of
earlier installations, and the generation is the number of installations. -/
theorem shape_of_last_install (factory : Factory) (messages : MessageTable)
    (ops : List Operation) :
    let start := create factory messages
    let r := start.runBy operate ops
    let installs := (start.history operate ops).filterMap Operation.installed?
    let specs := installs.getLast?.getD []
    r.fields = specs.map RuleSpec.field ∧ (specs.map RuleSpec.field).Nodup ∧
    List.Forall₂ (RuleSpec.Governs ⟨factory⟩) specs r.controls ∧
    (∀ spec ∈ specs, ∃ c, r.control? spec.field = some c ∧ spec.Governs ⟨factory⟩ c) ∧
    (∀ field c, r.control? field = some c → c.name = field) ∧
    r.size = specs.length ∧ (r.isEmpty = true ↔ specs = []) ∧
    (∀ field, field ∉ specs.map RuleSpec.field →
      r.control? field = none ∧ r.item? field = none) ∧
    r.generation = installs.length := by
  intro start r installs specs
  have hshaped : r.ShapedBy ⟨factory⟩ installs := shapedBy_history factory messages ops
  have hfields : r.fields = specs.map RuleSpec.field := hshaped.fields_eq
  have hsize : r.size = specs.length := by
    rw [hshaped.governed.length_eq, controls, List.length_map, size]
  refine ⟨hfields, ?_, hshaped.governed, ?_, ?_, hsize, ?_, ?_, hshaped.generation⟩
  · rw [← hfields]
    exact r.distinct
  · intro spec hspec
    exact exists_control?_of_governs hshaped.governed hspec
  · intro field c hc
    exact (r.control?_eq_some_iff.1 hc).2
  · rw [isEmpty, List.isEmpty_iff_length_eq_zero, ← List.length_eq_zero_iff, ← hsize]
    rfl
  · intro field hfield
    rw [← hfields] at hfield
    exact ⟨r.control?_eq_none_iff.2 hfield, r.lookup_eq_none_of_notMem hfield⟩

end Registry

end FormRules
