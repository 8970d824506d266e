import FormRules.Proofs.Form.Alike
import Mathlib.Data.List.Perm.Basic

/-!
# The order of declarations

Specifications can be installed in any order if they can be installed in one.
The forms differ in the order of their fields, and in nothing that a call
answers or leaves at a field: a chain that agrees with another field finds it
whether it is declared earlier or later.
-/

namespace FormRules.Registry

variable {r after : Registry} {specs specs' : List RuleSpec}

/-- Specifications in another order give the same fields in another order. -/
theorem exists_install_of_perm (hperm : specs'.Perm specs)
    (h : r.install specs = ⟨.ok after.entries, after⟩) :
    ∃ after', r.install specs' = ⟨.ok after'.entries, after'⟩ ∧
      after.Alike (fun controls controls' => controls'.Perm controls) 0 after' := by
  obtain ⟨hnodup, hdeclares, hgeneration, hmessages, hresolver⟩ := install_eq_ok_iff.1 h
  -- Each specification takes its field with it to its new place.
  obtain ⟨built, hdeclares', hbuilt⟩ :=
    List.perm_comp_forall₂ hperm (forall₂_declaresEntry_iff.2 hdeclares)
  let after' : Registry := { after with
    entries := built
    distinct := (hbuilt.map Prod.fst).nodup_iff.2 after.distinct
    keyed := fun entry hentry => after.keyed entry (hbuilt.mem_iff.1 hentry) }
  have hnodup' : (specs'.map RuleSpec.field).Nodup :=
    (hperm.map RuleSpec.field).nodup_iff.2 hnodup
  have hcontrols : List.Forall₂ (RuleSpec.Declares r.resolver) specs' after'.controls :=
    forall₂_declaresEntry_iff.1 hdeclares'
  refine ⟨after', ?_, rfl, rfl, hbuilt.map Prod.snd, rfl⟩
  exact install_eq_ok_iff.2 ⟨hnodup', hcontrols, hgeneration, hmessages, hresolver⟩

theorem fields_of_install (h : r.install specs = ⟨.ok after.entries, after⟩) :
    after.fields = specs.map RuleSpec.field := by
  obtain ⟨-, hdeclares, -⟩ := install_eq_ok_iff.1 h
  rw [fields_eq]
  exact (Traversal.map_eq_map_of_forall₂ hdeclares fun _ _ hc => hc.name.symm).symm

/-- Specifications that can be installed can be installed in any order, and the
order is not seen but in the list of the fields.  Every run of operations gives
the same answers on both forms, and after it each name finds the same field, with
the same value, marks, failures and chain. -/
theorem order_unseen (h : r.install specs = ⟨.ok after.entries, after⟩)
    (hperm : specs'.Perm specs) :
    ∃ after', r.install specs' = ⟨.ok after'.entries, after'⟩ ∧
      after.fields = specs.map RuleSpec.field ∧ after'.fields = specs'.map RuleSpec.field ∧
      ∀ ops : List Operation,
        let s := after.runBy operate ops
        let s' := after'.runBy operate ops
        after'.history operate ops = after.history operate ops ∧
          (∀ field, s'.control? field = s.control? field) ∧ s'.fields.Perm s.fields ∧
          s'.resolver = s.resolver ∧ s'.messages = s.messages ∧
          s'.generation = s.generation := by
  obtain ⟨after', h', halike⟩ := exists_install_of_perm hperm h
  refine ⟨after', h', fields_of_install h, fields_of_install h', ?_⟩
  intro ops s s'
  obtain ⟨hanswers, hend⟩ := halike.run arrangement_perm ops
  exact ⟨hanswers, hend.control?_eq arrangement_perm, hend.fields_perm arrangement_perm,
    hend.resolver, hend.messages, hend.generation⟩

/-- A confirmation disagrees with its password in the same way whether the
password is declared after it or before it. -/
theorem order_unseen_of_confirmation :
    let specs : List RuleSpec :=
      [⟨"confirm", some "required|matches[password]"⟩, ⟨"password", some "required"⟩]
    let ops : List Operation :=
      [.form (.setValue "password" (.text "secret1")),
        .form (.setValue "confirm" (.text "secret2"))]
    specs.reverse.Perm specs ∧ ∃ after after',
      new.install specs = ⟨.ok after.entries, after⟩ ∧
      new.install specs.reverse = ⟨.ok after'.entries, after'⟩ ∧
      after'.fields = ["password", "confirm"] ∧
      ((after.runBy operate ops).control? "confirm").map (·.state.failures.codes) =
        some ["matches"] ∧
      (after'.runBy operate ops).control? "confirm" =
        (after.runBy operate ops).control? "confirm" := by
  intro specs ops
  have hperm : specs.reverse.Perm specs := specs.reverse_perm
  -- The writes are made on whatever form the specifications give.
  have hdisagree : ((new.install specs).accepted.toOption.bind fun after =>
      ((after.runBy operate ops).control? "confirm").map (·.state.failures.codes)) =
        some ["matches"] := rfl
  rcases new.install_cases specs with ⟨e, -, h⟩ | ⟨after, -, -, -, -, h⟩ <;> rw [h] at hdisagree
  · contradiction
  · obtain ⟨after', h', -, hfields, hsame⟩ := order_unseen h hperm
    exact ⟨hperm, after, after', h, h', hfields, hdisagree, (hsame ops).2.1 "confirm"⟩

end FormRules.Registry
