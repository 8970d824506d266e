import FormRules.Proofs.Failure
import FormRules.Proofs.Rule.Chain

/-!
# Names of rules and failure codes

A validator of the standard rules goes by the name that its token has, and this
is a name of the standard factory or of a custom rule.  Such a validator fails
with its own name, so the failures of a chain are names of its validators.
-/

namespace FormRules

/-- The names of the standard rules and of the custom rules. -/
def ruleNames : List String := Factory.standard.names ++ CustomRule.all.map CustomRule.name

/-- The failures of a chain are the codes of the validators that fail. -/
theorem mem_runChain {chain : List Validator} {value : Value} {fields : Lookup} {code : Code} :
    code ∈ (runChain chain value fields).codes ↔
      ∃ v ∈ chain, v.validate value fields = some code := by
  rw [runChain, FailureSet.mem_ofList, List.mem_filterMap]

/-- Of two chains in a row, the second one adds the failures that the first one
does not have. -/
theorem codes_runChain_append (before after : List Validator) (value : Value) (fields : Lookup) :
    (runChain (before ++ after) value fields).codes =
      (runChain before value fields).codes ++
        (runChain after value fields).codes.filter fun code =>
          code ∉ (runChain before value fields).codes := by
  rw [runChain, List.filterMap_append]
  exact FailureSet.codes_ofList_append _ _

/-- A standard validator fails with its own name. -/
theorem Validator.eq_rule_of_validate {v : Validator} (h : v.Standard) {value : Value}
    {fields : Lookup} {code : Code} (hcode : v.validate value fields = some code) :
    code = v.rule := by
  obtain ⟨rule, check⟩ := v
  rcases h with ⟨test, htest⟩ | ⟨other, hother⟩
  · change check = .passes test at htest
    subst htest
    cases htest : test value <;> simp_all [validate]
  · rw [hother] at hcode ⊢
    cases hdisagree : disagree value (fields other) <;>
      simp_all [validate, CustomRule.agreesWith]

theorem CustomRule.name_of_ofName? {name : String} {rule : CustomRule}
    (h : ofName? name = some rule) : rule.name = name := by
  simpa using List.find?_some h

theorem StandardRule.name_of_ofName? {name : String} {rule : StandardRule}
    (h : ofName? name = some rule) : rule.name = name := by
  simpa using List.find?_some h

namespace Resolver

/-- A validator of the standard rules goes by the name of its token. -/
theorem rule_of_resolve {t : Token} {v : Validator} (h : standard.resolve t = .ok v) :
    v.rule = t.name := by
  rcases standard_resolve_eq_ok h with ⟨rule, hname, hbuild⟩ | ⟨rule, hname, hbuild⟩
  · rw [(CustomRule.build_eq_ok hbuild).1, CustomRule.name_of_ofName? hname]
  · obtain ⟨test, rfl⟩ := StandardRule.build_eq_ok hbuild
    exact StandardRule.name_of_ofName? hname

/-- The names that resolve are those of the standard and the custom rules. -/
theorem name_mem_of_resolve {t : Token} {v : Validator} (h : standard.resolve t = .ok v) :
    t.name ∈ ruleNames := by
  rw [ruleNames, List.mem_append]
  rcases standard_resolve_eq_ok h with ⟨rule, hname, -⟩ | ⟨rule, hname, -⟩
  · right
    rw [← CustomRule.name_of_ofName? hname]
    exact List.mem_map_of_mem (List.mem_of_find?_eq_some hname)
  · left
    rw [← StandardRule.name_of_ofName? hname]
    exact List.mem_map_of_mem (List.mem_of_find?_eq_some hname)

/-- The validators of a chain of the standard rules go by names of rules. -/
theorem rule_mem_of_compile {rules : Option String} {chain : List Validator}
    (h : standard.compile rules = .ok chain) : ∀ v ∈ chain, v.rule ∈ ruleNames := by
  intro v hv
  obtain ⟨t, ht⟩ := exists_resolve_of_compile h hv
  rw [rule_of_resolve ht]
  exact name_mem_of_resolve ht

end Resolver

end FormRules
