import FormRules.Proofs.Rule.Codes

/-!
# Empty values

A field without a value, and a field with the empty text, are the same to every
rule.  Of the standard and the custom rules only the two about presence fail
them.  Agreement with a field that is missing, has no value or has the empty text
always passes, so a chain does not see which of the three it is.
-/

namespace FormRules

/-- The names of the rules about presence. -/
def presenceRules : List String := [StandardRule.required.name, StandardRule.requiredTrue.name]

/-- What a lookup gives for a field that has nothing to agree with. -/
inductive Vacant : Option Value → Prop
  | missing : Vacant none
  | null : Vacant (some .null)
  | emptyText : Vacant (some (.text ""))

/-- Two lookups give the same, up to fields that are vacant in both. -/
def SameButVacant (fields fields' : Lookup) : Prop :=
  ∀ field, fields' field = fields field ∨ Vacant (fields field) ∧ Vacant (fields' field)

namespace Validator

/-- No value disagrees with a vacant field. -/
theorem disagree_of_vacant {other : Option Value} (h : Vacant other) (value : Value) :
    disagree value other = false := by
  cases h with
  | missing => rfl
  | null | emptyText => simp [disagree, Value.isEmpty]

/-- An empty value disagrees with no field. -/
theorem disagree_of_isEmpty {value : Value} (h : value.isEmpty = true) (other : Option Value) :
    disagree value other = false := by
  cases other <;> simp [disagree, h]

theorem disagree_congr {fields fields' : Lookup} (h : SameButVacant fields fields')
    (value : Value) (other : String) :
    disagree value (fields' other) = disagree value (fields other) := by
  rcases h other with hsame | ⟨hvacant, hvacant'⟩
  · rw [hsame]
  · rw [disagree_of_vacant hvacant, disagree_of_vacant hvacant']

/-- A standard validator does not see which kind of vacant a field is. -/
theorem validate_congr_of_vacant {v : Validator} (hv : v.Standard) {fields fields' : Lookup}
    (h : SameButVacant fields fields') (value : Value) :
    v.validate value fields' = v.validate value fields := by
  obtain ⟨rule, check⟩ := v
  rcases hv with ⟨test, htest⟩ | ⟨other, hother⟩
  · change check = .passes test at htest
    subst htest
    rfl
  · rw [hother]
    simp only [validate, CustomRule.agreesWith, disagree_congr h]

end Validator

/-- The failures of a chain do not depend on how the fields it agrees with are
vacant. -/
theorem runChain_congr_of_vacant {chain : List Validator} (hchain : ∀ v ∈ chain, v.Standard)
    {fields fields' : Lookup} (h : SameButVacant fields fields') (value : Value) :
    runChain chain value fields' = runChain chain value fields := by
  unfold runChain
  congr 1
  apply List.filterMap_congr
  intro v hv
  exact v.validate_congr_of_vacant (hchain v hv) h value

/-- The empty values are the one without a value and the empty text. -/
theorem Value.isEmpty_iff {value : Value} :
    value.isEmpty = true ↔ value = .null ∨ value = .text "" := by
  cases value <;> simp [isEmpty]

section

variable {value : Value} {v : Validator}

/-- A custom rule passes every empty value. -/
theorem CustomRule.validate_of_isEmpty {rule : CustomRule} {argument : Option String}
    (h : rule.build argument = .ok v) (hvalue : value.isEmpty = true) (fields : Lookup) :
    v.validate value fields = none := by
  rcases build_cases h with ⟨-, rfl⟩ | ⟨-, rfl⟩ | ⟨-, other, rfl⟩
  · simp [Validator.validate, isEmail, hasShape, hvalue]
  · simp [Validator.validate, isFacebook, hasShape, hvalue]
  · simp [Validator.validate, agreesWith, Validator.disagree_of_isEmpty hvalue]

namespace StandardRule

theorem hasMinLength_of_isEmpty (hvalue : value.isEmpty = true) (n : Nat) :
    hasMinLength n value = true := by
  rcases Value.isEmpty_iff.1 hvalue with rfl | rfl <;> simp [hasMinLength]

theorem hasMaxLength_of_isEmpty (hvalue : value.isEmpty = true) (n : Nat) :
    hasMaxLength n value = true := by
  rcases Value.isEmpty_iff.1 hvalue with rfl | rfl <;> simp [hasMaxLength]

/-- A standard rule fails an empty value exactly when it is about presence. -/
theorem validate_of_isEmpty {rule : StandardRule} {argument : Option String}
    (h : rule.build argument = .ok v) (hvalue : value.isEmpty = true) (fields : Lookup) :
    v.validate value fields = if rule.name ∈ presenceRules then some rule.name else none := by
  cases rule with
  | required =>
      rw [withoutArgument_eq_ok h]
      simp [Validator.validate, testing, presenceRules, hvalue]
  | requiredTrue =>
      rw [withoutArgument_eq_ok h]
      rcases Value.isEmpty_iff.1 hvalue with rfl | rfl <;> rfl
  | email =>
      rw [withoutArgument_eq_ok h]
      simp [Validator.validate, testing, presenceRules, name, hasMatch, hvalue]
  | minLength | maxLength | min | max | pattern =>
      -- The rules on lengths have no guard for empty values; the others do.
      obtain ⟨a, rfl⟩ := withArgument_eq_ok h
      simp [Validator.validate, testing, presenceRules, name, hasMinLength_of_isEmpty hvalue,
        hasMaxLength_of_isEmpty hvalue, isAtLeast, isAtMost, hasMatch, hvalue]

end StandardRule

/-- No custom rule is about presence. -/
theorem CustomRule.name_not_mem_presenceRules (rule : CustomRule) :
    rule.name ∉ presenceRules := by
  cases rule <;> decide

namespace Resolver

variable {rules : Option String} {chain : List Validator}

/-- A validator of the standard rules fails an empty value exactly when it goes by
the name of a rule about presence. -/
theorem validate_of_isEmpty {t : Token} (h : standard.resolve t = .ok v)
    (hvalue : value.isEmpty = true) (fields : Lookup) :
    v.validate value fields = if v.rule ∈ presenceRules then some v.rule else none := by
  rcases standard_resolve_eq_ok h with ⟨rule, -, hbuild⟩ | ⟨rule, -, hbuild⟩
  · rw [(CustomRule.build_eq_ok hbuild).1, if_neg rule.name_not_mem_presenceRules]
    exact CustomRule.validate_of_isEmpty hbuild hvalue fields
  · have hverdict := StandardRule.validate_of_isEmpty hbuild hvalue fields
    obtain ⟨test, rfl⟩ := StandardRule.build_eq_ok hbuild
    exact hverdict

theorem validate_of_compile_of_isEmpty (h : standard.compile rules = .ok chain)
    (hvalue : value.isEmpty = true) (fields : Lookup) {v : Validator} (hv : v ∈ chain) :
    v.validate value fields = if v.rule ∈ presenceRules then some v.rule else none := by
  obtain ⟨t, ht⟩ := exists_resolve_of_compile h hv
  exact validate_of_isEmpty ht hvalue fields

/-- The failures of an empty value are the rules about presence of the chain, in
the order in which they first occur. -/
theorem codes_runChain_of_isEmpty (h : standard.compile rules = .ok chain)
    (hvalue : value.isEmpty = true) (fields : Lookup) :
    (runChain chain value fields).codes =
      ((chain.map Validator.rule).filter (· ∈ presenceRules)).eraseDups := by
  have hverdicts : chain.filterMap (fun v => v.validate value fields) =
      (chain.map Validator.rule).filterMap (Option.guard (· ∈ presenceRules)) := by
    rw [List.filterMap_map]
    apply List.filterMap_congr
    intro v hv
    rw [validate_of_compile_of_isEmpty h hvalue fields hv]
    simp [Option.guard]
  rw [runChain, FailureSet.codes_ofList, hverdicts, List.filterMap_eq_filter]

/-- **Empty values are alike.**  A chain of the standard rules gives the field
without a value and the empty text the same failures, the distinct rules about
presence of the chain in the order of their first occurrence.  Its other rules
pass both.  And for a value of any kind it does not matter in which way the other
fields are vacant. -/
theorem empty_values_alike (h : standard.compile rules = .ok chain) :
    (∀ fields,
      runChain chain .null fields = runChain chain (.text "") fields ∧
        (runChain chain .null fields).codes =
          ((chain.map Validator.rule).filter (· ∈ presenceRules)).eraseDups) ∧
      (∀ v ∈ chain, v.rule ∉ presenceRules → ∀ value, value.isEmpty = true →
        ∀ fields, v.validate value fields = none) ∧
      ∀ value fields fields', SameButVacant fields fields' →
        runChain chain value fields' = runChain chain value fields := by
  refine ⟨fun fields => ⟨?_, codes_runChain_of_isEmpty h rfl fields⟩, ?_, ?_⟩
  · apply FailureSet.ext
    rw [codes_runChain_of_isEmpty h rfl, codes_runChain_of_isEmpty h rfl]
  · intro v hv hrule value hvalue fields
    rw [validate_of_compile_of_isEmpty h hvalue fields hv, if_neg hrule]
  · intro value fields fields' hfields
    exact runChain_congr_of_vacant (standard_of_compile h) hfields value

/-- Among other rules, the rules about presence count once each, and an agreement
passes also a value that is not empty when the other field is vacant. -/
theorem empty_values_alike_of_presence :
    ∃ chain, standard.compile (some "minlength[2]|requiredtrue|matches[b]|required|requiredtrue") =
        .ok chain ∧
      (∀ fields, (runChain chain (.text "") fields).codes = ["requiredtrue", "required"]) ∧
      ∀ value, runChain chain value (fun _ => some .null) = runChain chain value noFields := by
  obtain ⟨chain, hchain, hnames⟩ : ∃ chain,
      standard.compile (some "minlength[2]|requiredtrue|matches[b]|required|requiredtrue") =
        .ok chain ∧
      chain.map Validator.rule =
        ["minlength", "requiredtrue", "matches", "required", "requiredtrue"] := ⟨_, rfl, rfl⟩
  obtain ⟨hempty, -, hvacant⟩ := empty_values_alike hchain
  refine ⟨chain, hchain, fun fields => ?_, fun value => ?_⟩
  · obtain ⟨halike, hcodes⟩ := hempty fields
    rw [← halike, hcodes, hnames]
    decide
  · exact hvacant value noFields _ fun field => .inr ⟨.missing, .null⟩

end Resolver

end

end FormRules
