import FormRules.Proofs.Rule.Chain
import FormRules.Rule.Bytewise

/-!
# Errors about rules

An error that arises while a rule string is read or compiled is about a rule: it
has a place for the name of the field, which is filled in later, and filling it
in changes nothing else.
-/

namespace FormRules

namespace RuleError

/-- Is the error about a rule, so that the field at fault is filled in later? -/
def aboutRule : RuleError → Bool
  | duplicateField _ => false
  | unknownField _ => false
  | unsupportedValue _ => false
  | _ => true

theorem fieldName_forField {e : RuleError} (h : e.aboutRule = true) (name : String) :
    (e.forField name).fieldName = name := by
  cases e <;> simp_all [aboutRule, forField, fieldName]

/-- Filling in the name of a field changes only the name: with the old name put
back, the error is as before. -/
theorem forField_fieldName (e : RuleError) (name : String) :
    (e.forField name).forField e.fieldName = e := by
  cases e <;> rfl

end RuleError

/-- A factory refuses names and arguments with errors about rules. -/
def Factory.RefusesRules (factory : Factory) : Prop :=
  ∀ name argument e, factory.create name argument = .error e → e.aboutRule = true

theorem Token.aboutRule_of_parseAll {rules : Option String} {e : RuleError}
    (h : Token.parseAll rules = .error e) : e.aboutRule = true := by
  cases rules with
  | none => simp [Token.parseAll] at h
  | some rules =>
      by_cases hblank : Text.AllBlank rules.toList
      · simp [Token.parseAll_of_allBlank hblank] at h
      · rw [Token.parseAll_of_not_allBlank hblank] at h
        obtain ⟨-, piece, -, -, -, hpiece⟩ := Traversal.mapM_eq_error_iff.1 h
        obtain ⟨fault, -, rfl⟩ := (Token.readPiece_eq_error_iff _ _).1 hpiece
        rfl

theorem CustomRule.aboutRule_of_build {rule : CustomRule} {argument : Option String}
    {e : RuleError} (h : rule.build argument = .error e) : e.aboutRule = true := by
  cases rule with
  | agreement =>
      cases argument with
      | none =>
          rw [build, Except.error.injEq] at h
          exact h ▸ rfl
      | some field =>
          simp only [build] at h
          split at h
          · rw [Except.error.injEq] at h
            exact h ▸ rfl
          · simp at h
  | validEmail | validFacebook =>
      cases argument with
      | none => simp [build] at h
      | some argument =>
          simp only [build, Except.error.injEq] at h
          exact h ▸ rfl

theorem StandardRule.aboutRule_of_build {rule : StandardRule} {argument : Option String}
    {e : RuleError} (h : rule.build argument = .error e) : e.aboutRule = true := by
  have hwithout : ∀ test, rule.withoutArgument argument test = .error e → e.aboutRule = true := by
    intro test h
    cases argument with
    | none => simp [withoutArgument] at h
    | some argument =>
        rw [withoutArgument, Except.error.injEq] at h
        exact h ▸ rfl
  have hwith : ∀ {α : Type} (read : String → Except String α) (test : α → Value → Bool),
      rule.withArgument argument read test = .error e → e.aboutRule = true := by
    intro α read test h
    cases argument with
    | none =>
        rw [withArgument, Except.error.injEq] at h
        exact h ▸ rfl
    | some argument =>
        rw [withArgument] at h
        cases hread : read argument with
        | ok a => simp [hread] at h
        | error reason =>
            simp only [hread, Except.error.injEq] at h
            exact h ▸ rfl
  cases rule with
  | required | requiredTrue | email => exact hwithout _ h
  | minLength | maxLength | min | max | pattern => exact hwith _ _ h

theorem Factory.standard_refusesRules : Factory.standard.RefusesRules := by
  intro name argument e h
  cases hname : StandardRule.ofName? name with
  | some rule =>
      rw [standard_create_of_some hname] at h
      exact StandardRule.aboutRule_of_build h
  | none =>
      rw [standard_create_of_none hname, Except.error.injEq] at h
      exact h ▸ rfl

theorem Factory.bytewise_refusesRules : Factory.bytewise.RefusesRules := by
  intro name argument e h
  unfold bytewise at h
  dsimp only at h
  split at h
  · simp at h
  · split at h
    · simp at h
    · rw [Except.error.injEq] at h
      exact h ▸ rfl
  · simp at h
  · rw [Except.error.injEq] at h
    exact h ▸ rfl

namespace Resolver

theorem aboutRule_of_resolve {r : Resolver} (hfactory : r.factory.RefusesRules) {t : Token}
    {e : RuleError} (h : r.resolve t = .error e) : e.aboutRule = true := by
  unfold resolve at h
  cases hcustom : CustomRule.ofName? t.name with
  | some rule =>
      rw [hcustom] at h
      exact CustomRule.aboutRule_of_build h
  | none =>
      rw [hcustom] at h
      exact hfactory _ _ _ h

/-- Compiling a rule string fails with an error about a rule. -/
theorem aboutRule_of_compile {r : Resolver} (hfactory : r.factory.RefusesRules)
    {rules : Option String} {e : RuleError} (h : r.compile rules = .error e) :
    e.aboutRule = true := by
  rcases (compile_eq_error_iff _ _ _).1 h with h | ⟨tokens, -, h⟩
  · exact Token.aboutRule_of_parseAll h
  · obtain ⟨before, t, after, -, -, ht⟩ := h
    exact aboutRule_of_resolve hfactory ht

end Resolver

end FormRules
