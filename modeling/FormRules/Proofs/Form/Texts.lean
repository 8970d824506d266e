import FormRules.Form.Journal
import FormRules.Proofs.Form.Freshness
import FormRules.Proofs.Form.Shape
import FormRules.Proofs.Message
import FormRules.Proofs.Rule.Codes

/-!
# Texts of failures

The failures that a form with the standard rules stores go by names of rules,
and the default table has a text for each of these names.  Calls can only add
texts unless they replace the table as a whole.  So such a form never has to
show the fallback.
-/

namespace FormRules

/-- The texts that a call has added to those of the form. -/
def addedTexts (call : Action × Answer) : MessageTable :=
  match call.1 with
  | .installDefinition d => if call.2.isAccepted then d.messages else .empty
  | .setMessage code text => ⟨[(code, text)], List.nodup_singleton code⟩
  | .extendMessages texts => texts
  | _ => .empty

/-- The operation replaces the texts of the form as a whole, or it stores
failures that no chain has given. -/
def Operation.overrules : Operation → Bool
  | .form (.replaceMessages _) => true
  | .field _ (.setFailures _) => true
  | _ => false

/-- Every name of a rule has a default text. -/
theorem MessageTable.isSome_get?_defaults :
    ∀ code ∈ ruleNames, (defaults.get? code).isSome = true := by
  decide

namespace Registry

/-- A form with the standard rules and the default texts: a new one, or one that
a definition has built. -/
inductive Default : Registry → Prop
  | new : Default .new
  | built {d : Definition} {r : Registry} (h : d.build = .ok r) : Default r

/-- The rules are the standard ones, and the failures that are stored go by
names of rules. -/
structure Named (r : Registry) : Prop extends HasStandardRules r where
  rules : ∀ c ∈ r.controls, ∀ v ∈ c.validators, v.rule ∈ ruleNames
  failures : ∀ c ∈ r.controls, ∀ code ∈ c.state.failures.codes, code ∈ ruleNames

/-- Every name of a rule has a text in the table of the form. -/
def Covered (r : Registry) : Prop :=
  ∀ code ∈ ruleNames, (r.messages.get? code).isSome = true

section

variable {r after : Registry} {c : Control} {f : Control → FieldState → FieldState}

/-- The codes that a chain gives are names of rules. -/
theorem mem_ruleNames_of_runValidators (h : r.Named) (hc : c ∈ r.controls) {fields : Lookup}
    {code : Code} (hcode : code ∈ (c.runValidators fields).codes) : code ∈ ruleNames := by
  obtain ⟨v, hv, hfails⟩ := mem_runChain.1 hcode
  rw [Validator.eq_rule_of_validate (h.standard c hc v hv) hfails]
  exact h.rules c hc v hv

theorem named_mapStates (h : r.Named)
    (hf : ∀ c ∈ r.controls, ∀ code ∈ (f c c.state).failures.codes, code ∈ ruleNames) :
    (r.mapStates f).Named where
  toHasStandardRules := hasStandardRules_mapStates h.toHasStandardRules
  rules := by
    intro c hc
    obtain ⟨before, hbefore, rfl⟩ := r.mem_controls_mapStates.1 hc
    exact h.rules before hbefore
  failures := by
    intro c hc
    obtain ⟨before, hbefore, rfl⟩ := r.mem_controls_mapStates.1 hc
    exact hf before hbefore

/-- Changes that keep the failures do not matter. -/
theorem named_mapStates_of_failures (h : r.Named)
    (hf : ∀ c state, (f c state).failures = state.failures) : (r.mapStates f).Named := by
  apply named_mapStates h
  intro c hc
  rw [hf]
  exact h.failures c hc

theorem named_modify (h : r.Named) (field : String) {g : FieldState → FieldState}
    (hg : ∀ state, (g state).failures = state.failures) : (r.modify field g).Named := by
  rw [modify_eq_mapStates]
  apply named_mapStates_of_failures h
  intro c state
  split
  · exact hg state
  · rfl

theorem named_storeFailures (h : r.Named) (hc : c ∈ r.controls) : (r.storeFailures c).Named := by
  rw [storeFailures, modify_eq_mapStates]
  apply named_mapStates h
  intro other hother code hcode
  split at hcode
  · exact mem_ruleNames_of_runValidators h hc hcode
  · exact h.failures other hother code hcode

theorem named_storeAllFailures (h : r.Named) : r.storeAllFailures.Named := by
  apply named_mapStates h
  intro c hc code hcode
  exact mem_ruleNames_of_runValidators h hc hcode

theorem named_writeAll (h : r.Named) (writes : List (String × Value)) :
    (r.writeAll writes).Named := by
  rw [writeAll_eq_mapStates]
  apply named_mapStates_of_failures h
  intro c state
  cases lastOf writes c.name <;> rfl

/-- The fields that an installation makes have chains of the standard rules and
no failures. -/
theorem named_install {specs : List RuleSpec} (h : r.HasStandardRules)
    (hinstall : r.install specs = ⟨.ok after.entries, after⟩) : after.Named where
  toHasStandardRules := (coherent_install h hinstall).toHasStandardRules
  rules := by
    intro c hc
    obtain ⟨spec, -, hdeclares⟩ := declares_of_install hinstall hc
    have hchain := hdeclares.chain
    rw [h.resolver] at hchain
    exact Resolver.rule_mem_of_compile hchain
  failures := by
    intro c hc code hcode
    obtain ⟨spec, -, hdeclares⟩ := declares_of_install hinstall hc
    rw [hdeclares.passing] at hcode
    contradiction

/-- Every transition stores failures under names of rules only. -/
theorem named_transition (ht : r.Transition after) (h : r.Named) : after.Named := by
  cases ht with
  | stay => exact h
  | installed hinstall messages =>
      have hafter := named_install h.toHasStandardRules hinstall
      exact ⟨⟨hafter.resolver, hafter.standard⟩, hafter.rules, hafter.failures⟩
  | relabelled messages => exact ⟨⟨h.resolver, h.standard⟩, h.rules, h.failures⟩
  | checked hc => exact named_storeFailures h hc
  | @written field value c hc hname =>
      -- The value is written first, and the failures are stored after that.
      have hwritten : (r.modify field (.setValue value)).Named := named_modify h field fun _ => rfl
      exact named_storeFailures hwritten hc
  | patched writes => exact named_storeAllFailures (named_writeAll h writes)
  | checkedAll => exact named_storeAllFailures h
  | touched field => exact named_modify h field fun _ => rfl
  | touchedAll => exact named_mapStates_of_failures h fun _ _ => rfl
  | cleared =>
      apply named_mapStates h
      intro c _ code hcode
      contradiction

/-- Calls on a field past the checks store other failures only when they are
told to. -/
theorem named_operate {op : Operation} (hop : op.overrules = false) (h : r.Named) :
    (r.operate op).2.Named := by
  cases op with
  | form a => exact named_transition (r.transition_step a) h
  | field name call =>
      cases call with
      | setValue value => exact named_modify h name fun _ => rfl
      | markTouched => exact named_modify h name fun _ => rfl
      | setFailures failures => contradiction
      | reset =>
          change (r.modify name fun _ => .fresh).Named
          rw [modify_eq_mapStates]
          apply named_mapStates h
          intro c hc code hcode
          split at hcode
          · contradiction
          · exact h.failures c hc code hcode

/-- Installing a definition adds its texts if it is accepted. -/
theorem messages_installDefinition (d : Definition) :
    (r.step (.installDefinition d)).2.messages =
      r.messages.extend
        (addedTexts (.installDefinition d, (r.step (.installDefinition d)).1)) := by
  rcases installInto_cases d r with ⟨e, -, hinto⟩ | ⟨installed, hinstall, hinto⟩ <;>
    rw [step, hinto]
  · rfl
  · have hkept : installed.messages = r.messages := (install_eq_ok hinstall).2.2.1
    rw [← hkept]
    rfl

/-- A call that does not replace the texts of the form adds to them. -/
theorem messages_step {a : Action} (h : ∀ texts, a ≠ .replaceMessages texts) :
    (r.step a).2.messages = r.messages.extend (addedTexts (a, (r.step a).1)) := by
  cases a with
  | install specs =>
      rcases r.install_cases specs with ⟨e, -, hinstall⟩ | ⟨after, -, -, hkept, -, hinstall⟩ <;>
        rw [step, hinstall]
      · rfl
      · exact hkept
  | installDefinition d => exact messages_installDefinition d
  | setValue field value =>
      rcases r.setValue_cases field value with ⟨-, hset⟩ | ⟨c, -, -, hset⟩ <;> rw [step, hset] <;>
        rfl
  | patchValues members =>
      rcases r.patchValues_cases members with ⟨e, -, hpatch⟩ | ⟨writes, -, hpatch⟩ <;>
        rw [step, hpatch]
      · rfl
      · rw [writeAll_eq_mapStates]
        rfl
  | markTouched field =>
      rcases r.markTouched_cases field with ⟨-, htouch⟩ | ⟨-, htouch⟩ <;> rw [step, htouch] <;> rfl
  | validate field =>
      rcases r.validate_cases field with ⟨-, hvalidate⟩ | ⟨c, -, hvalidate⟩ <;>
        rw [step, hvalidate] <;> rfl
  | replaceMessages texts => exact absurd rfl (h texts)
  | setMessage | extendMessages | markAllTouched | validateAll | reset | isValid | errors
  | item => rfl

theorem covered_operate {op : Operation} (hop : op.overrules = false) (h : r.Covered) :
    (r.operate op).2.Covered := by
  cases op with
  | field name call => exact h
  | form a =>
      have hreplace : ∀ texts, a ≠ .replaceMessages texts := by
        rintro texts rfl
        contradiction
      intro code hcode
      change ((r.step a).2.messages.get? code).isSome = true
      rw [messages_step hreplace]
      exact MessageTable.isSome_get?_extend (h code hcode) _

/-- At a form that has a text for each stored failure, nothing is logged about
texts that are missing. -/
theorem errorsEvents_eq_nil
    (h : ∀ c ∈ r.controls, ∀ code ∈ c.state.failures.codes, (r.messages.get? code).isSome = true)
    (field : String) (overrides : Option MessageTable) : r.errorsEvents field overrides = [] := by
  unfold errorsEvents
  split
  · rename_i failures hshown
    obtain ⟨c, hc, hsurface⟩ := Option.bind_eq_some_iff.1 hshown
    obtain ⟨-, -, rfl⟩ := surface_eq_some hsurface
    obtain ⟨hmem, -⟩ := r.control?_eq_some_iff.1 hc
    rw [MessageTable.resolveEvents, List.map_eq_nil_iff, List.filter_eq_nil_iff]
    intro code hcode
    have hnone : (r.messages.get? code).isNone = false := by
      rw [← Option.not_isSome, h c hmem code hcode, Bool.not_true]
    rw [hnone, Bool.and_false]
    exact Bool.false_ne_true
  · rfl

/-- The texts that a form shows are those of the caller or of the table, one for
each failure of the field. -/
theorem forall₂_of_errors
    (h : ∀ c ∈ r.controls, ∀ code ∈ c.state.failures.codes, (r.messages.get? code).isSome = true)
    {field : String} {overrides : Option MessageTable} {texts : List String}
    (herrors : r.errors field overrides = some texts) :
    ∃ c, r.control? field = some c ∧
      List.Forall₂ (fun code text =>
        (MessageTable.override? overrides code).or (r.messages.get? code) = some text)
        c.state.failures.codes texts := by
  obtain ⟨c, hc, -, -, rfl⟩ := errors_eq_some herrors
  obtain ⟨hmem, -⟩ := r.control?_eq_some_iff.1 hc
  refine ⟨c, hc, ?_⟩
  rw [MessageTable.resolveAll, List.forall₂_map_right_iff, List.forall₂_same]
  intro code hcode
  exact MessageTable.resolve_of_isSome (h c hmem code hcode) overrides

/-- A form as it is made knows the standard rules and the default texts. -/
theorem named_of_default (h : r.Default) : r.Named := by
  cases h with
  | new =>
      have hempty : ∀ c, c ∉ new.controls := fun _ => List.not_mem_nil
      exact ⟨⟨rfl, fun c hc => absurd hc (hempty c)⟩, fun c hc => absurd hc (hempty c),
        fun c hc => absurd hc (hempty c)⟩
  | built hbuild =>
      exact named_install ⟨rfl, fun c hc => absurd hc List.not_mem_nil⟩ (install_of_build hbuild)

theorem covered_of_default (h : r.Default) : r.Covered := by
  intro code hcode
  have hdefault := MessageTable.isSome_get?_defaults code hcode
  cases h with
  | new => exact hdefault
  | built hbuild =>
      rw [(install_eq_ok (install_of_build hbuild)).2.2.1]
      exact MessageTable.isSome_get?_extend hdefault _

end

/-- A form with the standard rules and the default texts never shows the
fallback.  After every run of operations that neither replace its texts as a
whole nor store failures past the checks, each failure that is stored goes by the
name of a standard or of a custom rule and has a text in the table.  So the texts
that are shown are those of the caller or of the table, and no text is found
missing. -/
theorem failures_have_texts {start : Registry} (hstart : start.Default) {ops : List Operation}
    (hops : ∀ op ∈ ops, op.overrules = false) :
    let r := start.runBy operate ops
    (∀ c ∈ r.controls, ∀ code ∈ c.state.failures.codes,
      (code ∈ Factory.standard.names ∨ ∃ rule : CustomRule, code = rule.name) ∧
        ∃ text, r.messages.get? code = some text) ∧
    (∀ field overrides texts, r.errors field overrides = some texts →
      ∃ c, r.control? field = some c ∧
        List.Forall₂ (fun code text =>
          (MessageTable.override? overrides code).or (r.messages.get? code) = some text)
          c.state.failures.codes texts) ∧
    ∀ field overrides, r.errorsEvents field overrides = [] := by
  intro r
  obtain ⟨hnamed, hcovered⟩ : r.Named ∧ r.Covered :=
    runBy_induction (P := fun r => r.Named ∧ r.Covered)
      (fun r op hop h => ⟨named_operate (hops op hop) h.1, covered_operate (hops op hop) h.2⟩)
      ⟨named_of_default hstart, covered_of_default hstart⟩
  have htexts : ∀ c ∈ r.controls, ∀ code ∈ c.state.failures.codes,
      (r.messages.get? code).isSome = true :=
    fun c hc code hcode => hcovered code (hnamed.failures c hc code hcode)
  refine ⟨?_, fun _ _ _ => forall₂_of_errors htexts, errorsEvents_eq_nil htexts⟩
  intro c hc code hcode
  refine ⟨?_, Option.isSome_iff_exists.1 (htexts c hc code hcode)⟩
  rcases List.mem_append.1 (hnamed.failures c hc code hcode) with hstandard | hcustom
  · exact .inl hstandard
  · obtain ⟨rule, -, hname⟩ := List.mem_map.1 hcustom
    exact .inr ⟨rule, hname.symm⟩

/-- A new form whose field is too short shows the text that was set for that,
and finds no text missing at any field. -/
theorem failures_have_texts_of_short_name :
    let ops : List Operation := [
      .form (.install [⟨"name", some "required|minlength[3]"⟩]),
      .form (.setMessage "minlength" "Too short"),
      .form (.setValue "name" (.text "ab")),
      .field "name" .markTouched]
    let r := new.runBy operate ops
    (∀ op ∈ ops, op.overrules = false) ∧ r.errors "name" none = some ["Too short"] ∧
      ∀ field overrides, r.errorsEvents field overrides = [] := by
  intro ops r
  have hops : ∀ op ∈ ops, op.overrules = false := by decide
  exact ⟨hops, rfl, (failures_have_texts .new hops).2.2⟩

end Registry

end FormRules
