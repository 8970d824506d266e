import FormRules.Proofs.Rule.Canonical
import FormRules.Proofs.Rule.Codes
import FormRules.Proofs.Rule.Verdict

/-!
# Rules with an argument

The standard rules for lengths and for bounds read their argument and then test values
against what they have read.  An argument that cannot be read is reported as it was
given, together with the reason of the reading.
-/

namespace FormRules

namespace StandardRule

variable {α : Type} {rule : StandardRule} {argument : String} {read : String → Except String α}
  {test : α → Value → Bool}

theorem withArgument_of_ok {a : α} (h : read argument = .ok a) :
    rule.withArgument (some argument) read test = .ok (rule.testing (test a)) :=
  withArgument_some_eq_ok_iff.2 ⟨a, h, rfl⟩

theorem withArgument_some_eq_error_iff {e : RuleError} :
    rule.withArgument (some argument) read test = .error e ↔
      ∃ reason, read argument = .error reason ∧
        e = .invalidArgument "" rule.name argument reason := by
  rw [withArgument]
  cases hread : read argument with
  | error reason => simp [eq_comm]
  | ok a => simp

end StandardRule

theorem Factory.standard_create_name (rule : StandardRule) (argument : Option String) :
    standard.create rule.name argument = rule.build argument :=
  standard_create_of_some (by cases rule <;> rfl) argument

/-- A chain leaves no failure when all of its validators pass. -/
theorem codes_runChain_eq_nil_iff {chain : List Validator} {value : Value} {fields : Lookup} :
    (runChain chain value fields).codes = [] ↔
      ∀ v ∈ chain, v.validate value fields = none := by
  rw [List.eq_nil_iff_forall_not_mem]
  constructor
  · intro h v hv
    cases hcode : v.validate value fields with
    | none => rfl
    | some code => exact absurd (mem_runChain.2 ⟨v, hv, hcode⟩) (h code)
  · intro h code hcode
    obtain ⟨v, hv, hfails⟩ := mem_runChain.1 hcode
    rw [h v hv] at hfails
    contradiction

/-- Two validators in a chain leave no failure for the values that both of them pass. -/
theorem codes_runChain_pair {v w : Validator} {c d : Code} {P Q : Value → Prop}
    (hv : v.Decides c P) (hw : w.Decides d Q) (value : Value) (fields : Lookup) :
    (runChain [v, w] value fields).codes = [] ↔ P value ∧ Q value := by
  rw [codes_runChain_eq_nil_iff, List.forall_mem_cons, List.forall_mem_singleton,
    hv.passes_iff, hw.passes_iff]

/-- The rule string of canonical tokens compiles to their validators. -/
theorem Resolver.compile_joined (r : Resolver) {tokens : List Token}
    (h : ∀ t ∈ tokens, t.Canonical) :
    r.compile (some (Token.joined tokens)) = tokens.mapM r.resolve := by
  unfold compile
  rw [Token.parseAll_joined h]
  rfl

end FormRules
