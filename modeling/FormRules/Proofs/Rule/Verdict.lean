import FormRules.Rule.Validator

/-!
# Verdicts

Most validators are a test of the value under the name of their rule.  Such a
validator decides a property of values: those that have it pass, and the others
fail with the name of the rule.
-/

namespace FormRules.Validator

/-- A validator passes the values with a property and fails all others with one
code, whatever the other fields hold. -/
structure Decides (v : Validator) (code : Code) (P : Value → Prop) : Prop where
  passes_iff : ∀ value fields, v.validate value fields = none ↔ P value
  passes_or_fails : ∀ value fields,
    v.validate value fields = none ∨ v.validate value fields = some code

section

variable {v : Validator} {code : Code} {P : Value → Prop} {value : Value}

/-- A test of the value decides what it tests. -/
theorem decides_of_test (rule : String) {test : Value → Bool}
    (h : ∀ value, test value = true ↔ P value) :
    Decides ⟨rule, .passes test⟩ rule P where
  passes_iff value fields := by
    rw [← h value]
    cases htest : test value <;> simp [validate, htest]
  passes_or_fails value fields := by
    cases htest : test value <;> simp [validate, htest]

theorem Decides.fails (h : v.Decides code P) (hvalue : ¬ P value) (fields : Lookup) :
    v.validate value fields = some code :=
  (h.passes_or_fails value fields).resolve_left fun hnone =>
    hvalue ((h.passes_iff value fields).1 hnone)

/-- A rule for texts fails numbers and truth values. -/
theorem Decides.fails_unless_text {P : String → Prop}
    (h : v.Decides code fun value => value.isEmpty = true ∨ ∃ s, value = .text s ∧ P s)
    (fields : Lookup) :
    (∀ x, v.validate (.number x) fields = some code) ∧
      ∀ b, v.validate (.bool b) fields = some code := by
  constructor
  · intro x
    refine h.fails ?_ fields
    rintro (hempty | ⟨s, hs, -⟩) <;> contradiction
  · intro b
    refine h.fails ?_ fields
    rintro (hempty | ⟨s, hs, -⟩) <;> contradiction

end

end FormRules.Validator
