import FormRules.Proofs.Rule.Grammar
import FormRules.Rule.Resolver

/-!
# What a chain looks at

A rule string compiles exactly when it can be read and each of its tokens can be
resolved, and the chain keeps the order of the tokens.  A validator of the
standard rules looks at the value of its own field, or in addition at the value
of the one field that it agrees with.  So two lookups that give the same values
to the fields that a chain agrees with give the same failures.
-/

namespace FormRules

namespace Resolver

/-- A rule string compiles when it can be read and all its tokens resolve. -/
theorem compile_eq_ok_iff (r : Resolver) (rules : Option String) (chain : List Validator) :
    r.compile rules = .ok chain ↔
      ∃ tokens, Token.parseAll rules = .ok tokens ∧
        List.Forall₂ (fun t v => r.resolve t = .ok v) tokens chain := by
  unfold compile
  cases Token.parseAll rules with
  | error e => simp [bind, Except.bind]
  | ok tokens =>
      change tokens.mapM r.resolve = .ok chain ↔ _
      simp [Traversal.mapM_eq_ok_iff]

/-- A rule string that does not compile cannot be read, or else the error is the
one of the first token that does not resolve. -/
theorem compile_eq_error_iff (r : Resolver) (rules : Option String) (e : RuleError) :
    r.compile rules = .error e ↔
      Token.parseAll rules = .error e ∨
        ∃ tokens, Token.parseAll rules = .ok tokens ∧
          ∃ before t after, tokens = before ++ t :: after ∧
            (∀ earlier ∈ before, ∃ v, r.resolve earlier = .ok v) ∧ r.resolve t = .error e := by
  unfold compile
  cases Token.parseAll rules with
  | error e' => simp [bind, Except.bind]
  | ok tokens =>
      change tokens.mapM r.resolve = .error e ↔ _
      simp [Traversal.mapM_eq_error_iff]

/-- Each validator of a chain comes from a token. -/
theorem exists_resolve_of_compile {r : Resolver} {rules : Option String}
    {chain : List Validator} (h : r.compile rules = .ok chain) {v : Validator} (hv : v ∈ chain) :
    ∃ t, r.resolve t = .ok v := by
  obtain ⟨tokens, -, hresolved⟩ := (compile_eq_ok_iff _ _ _).1 h
  obtain ⟨t, -, ht⟩ := Traversal.exists_mem_of_forall₂ hresolved hv
  exact ⟨t, ht⟩

end Resolver

namespace Validator

/-- A validator as the standard rules make them: a test of the value alone, or
agreement with one other field. -/
def Standard (v : Validator) : Prop :=
  (∃ test, v.check = .passes test) ∨ ∃ other, v = CustomRule.agreesWith other

theorem standard_passes (rule : String) (test : Value → Bool) :
    Standard ⟨rule, .passes test⟩ :=
  .inl ⟨test, rfl⟩

/-- The verdict of a standard validator depends only on the value and on the
field that it agrees with. -/
theorem validate_congr {v : Validator} (h : v.Standard) {fields fields' : Lookup}
    (hfields : ∀ other, v = CustomRule.agreesWith other → fields other = fields' other)
    (value : Value) : v.validate value fields = v.validate value fields' := by
  obtain ⟨rule, check⟩ := v
  rcases h with ⟨test, htest⟩ | ⟨other, hother⟩
  · change check = .passes test at htest
    subst htest
    rfl
  · have hsame := hfields other hother
    rw [hother]
    simp only [validate, CustomRule.agreesWith, hsame]

end Validator

/-- The failures of a chain depend only on the value and on the fields that the
chain agrees with. -/
theorem runChain_congr {chain : List Validator} (h : ∀ v ∈ chain, v.Standard)
    {fields fields' : Lookup}
    (hfields : ∀ other, CustomRule.agreesWith other ∈ chain → fields other = fields' other)
    (value : Value) : runChain chain value fields = runChain chain value fields' := by
  unfold runChain
  congr 1
  apply List.filterMap_congr
  intro v hv
  apply v.validate_congr (h v hv)
  rintro other rfl
  exact hfields other hv

namespace CustomRule

/-- The validators that custom rules give. -/
theorem build_cases {rule : CustomRule} {argument : Option String} {v : Validator}
    (h : rule.build argument = .ok v) :
    (rule = validEmail ∧ v = ⟨validEmail.name, .passes isEmail⟩) ∨
      (rule = validFacebook ∧ v = ⟨validFacebook.name, .passes isFacebook⟩) ∨
      (rule = agreement ∧ ∃ other, v = agreesWith other) := by
  cases rule with
  | agreement =>
      cases argument with
      | none => simp [build] at h
      | some field =>
          simp only [build] at h
          split at h
          · simp at h
          · rw [Except.ok.injEq] at h
            exact .inr (.inr ⟨rfl, _, h.symm⟩)
  | validEmail =>
      cases argument with
      | none =>
          rw [build, Except.ok.injEq] at h
          exact .inl ⟨rfl, h.symm⟩
      | some argument => simp [build] at h
  | validFacebook =>
      cases argument with
      | none =>
          rw [build, Except.ok.injEq] at h
          exact .inr (.inl ⟨rfl, h.symm⟩)
      | some argument => simp [build] at h

/-- What a custom rule gives: a test of the value under the name of the rule, or
agreement. -/
theorem build_eq_ok {rule : CustomRule} {argument : Option String} {v : Validator}
    (h : rule.build argument = .ok v) :
    v.rule = rule.name ∧
      ((∃ test, v.check = .passes test) ∨ ∃ other, v = agreesWith other) := by
  rcases build_cases h with ⟨rfl, rfl⟩ | ⟨rfl, rfl⟩ | ⟨rfl, other, rfl⟩
  · exact ⟨rfl, .inl ⟨_, rfl⟩⟩
  · exact ⟨rfl, .inl ⟨_, rfl⟩⟩
  · exact ⟨rfl, .inr ⟨_, rfl⟩⟩

end CustomRule

namespace StandardRule

theorem withoutArgument_eq_ok {rule : StandardRule} {argument : Option String}
    {test : Value → Bool} {v : Validator} (h : rule.withoutArgument argument test = .ok v) :
    v = rule.testing test := by
  cases argument with
  | none =>
      rw [withoutArgument, Except.ok.injEq] at h
      exact h.symm
  | some argument => simp [withoutArgument] at h

theorem withArgument_some_eq_ok_iff {α : Type} {rule : StandardRule} {argument : String}
    {read : String → Except String α} {test : α → Value → Bool} {v : Validator} :
    rule.withArgument (some argument) read test = .ok v ↔
      ∃ a, read argument = .ok a ∧ v = rule.testing (test a) := by
  rw [withArgument]
  cases hread : read argument with
  | error reason => simp
  | ok a => simp [eq_comm]

theorem withArgument_eq_ok {α : Type} {rule : StandardRule} {argument : Option String}
    {read : String → Except String α} {test : α → Value → Bool} {v : Validator}
    (h : rule.withArgument argument read test = .ok v) : ∃ a, v = rule.testing (test a) := by
  cases argument with
  | none => simp [withArgument] at h
  | some argument =>
      obtain ⟨a, -, hv⟩ := withArgument_some_eq_ok_iff.1 h
      exact ⟨a, hv⟩

/-- What a standard rule gives: a test of the value under the name of the
rule. -/
theorem build_eq_ok {rule : StandardRule} {argument : Option String} {v : Validator}
    (h : rule.build argument = .ok v) : ∃ test, v = rule.testing test := by
  cases rule with
  | required | requiredTrue | email => exact ⟨_, withoutArgument_eq_ok h⟩
  | minLength | maxLength | min | max | pattern =>
      obtain ⟨a, hv⟩ := withArgument_eq_ok h
      exact ⟨_, hv⟩

end StandardRule

namespace Factory

variable {name : String}

theorem standard_create_of_some {rule : StandardRule} (h : StandardRule.ofName? name = some rule)
    (argument : Option String) : standard.create name argument = rule.build argument := by
  simp only [standard, h]

theorem standard_create_of_none (h : StandardRule.ofName? name = none)
    (argument : Option String) :
    standard.create name argument = .error (.unknownRule "" name) := by
  simp only [standard, h]

end Factory

namespace Resolver

/-- A token of the standard rules names a custom rule or a standard one, and that
rule gives the validator. -/
theorem standard_resolve_eq_ok {t : Token} {v : Validator} (h : standard.resolve t = .ok v) :
    (∃ rule, CustomRule.ofName? t.name = some rule ∧ rule.build t.argument = .ok v) ∨
      ∃ rule, StandardRule.ofName? t.name = some rule ∧ rule.build t.argument = .ok v := by
  unfold resolve at h
  cases hcustom : CustomRule.ofName? t.name with
  | some rule =>
      rw [hcustom] at h
      exact .inl ⟨rule, rfl, h⟩
  | none =>
      rw [hcustom] at h
      change Factory.standard.create t.name t.argument = .ok v at h
      cases hstandard : StandardRule.ofName? t.name with
      | some rule =>
          rw [Factory.standard_create_of_some hstandard] at h
          exact .inr ⟨rule, rfl, h⟩
      | none =>
          rw [Factory.standard_create_of_none hstandard] at h
          contradiction

theorem standard_of_resolve {t : Token} {v : Validator} (h : standard.resolve t = .ok v) :
    v.Standard := by
  rcases standard_resolve_eq_ok h with ⟨rule, -, hbuild⟩ | ⟨rule, -, hbuild⟩
  · exact (CustomRule.build_eq_ok hbuild).2
  · obtain ⟨test, rfl⟩ := StandardRule.build_eq_ok hbuild
    exact Validator.standard_passes _ test

/-- The chains of the standard rules hold standard validators only. -/
theorem standard_of_compile {rules : Option String} {chain : List Validator}
    (h : standard.compile rules = .ok chain) : ∀ v ∈ chain, v.Standard := by
  intro v hv
  obtain ⟨t, ht⟩ := exists_resolve_of_compile h hv
  exact standard_of_resolve ht

end Resolver

end FormRules
