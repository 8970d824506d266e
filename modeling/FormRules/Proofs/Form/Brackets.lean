import FormRules.Proofs.Form.Install
import FormRules.Proofs.Rule.Brackets

/-!
# Forms and separators in brackets

A rule whose brackets hold a separator is never taken for other rules: its rule
string does not compile, and specifications with it are not installed.
-/

namespace FormRules.Registry

variable {r : Registry} {specs : List RuleSpec}

/-- Specifications are refused if the rules of one of them do not compile. -/
theorem install_refused_of_mem {spec : RuleSpec} (hspec : spec ∈ specs) {cause : RuleError}
    (hcause : r.resolver.compile spec.rules = .error cause) :
    ∃ e, r.install specs = ⟨.error e, r⟩ ∧ r.step (.install specs) = (.refused e, r) := by
  rcases r.install_cases specs with ⟨e, -, hinstall⟩ | ⟨after, -, -, -, -, hinstall⟩
  · exact ⟨e, hinstall, by rw [step, hinstall, Reply.conclude]⟩
  · obtain ⟨chain, hchain⟩ := (exists_install_iff.1 ⟨after, hinstall⟩).2 spec hspec
    rw [hcause] at hchain
    contradiction

/-- With the standard rules, and with every factory that has no brackets in the
names of its rules, a rule string that compiles has in each piece no brackets, or
one pair that ends the piece but for blanks.  So no separator stands between an
opening bracket and the next closing one.  A rule string with a separator in
brackets does not compile, and specifications with it leave the form as it
was. -/
theorem no_separator_in_brackets :
    Factory.standard.RefusesBrackets ∧
    ∀ resolver : Resolver, resolver.factory.RefusesBrackets → ∀ rules : String,
      (∀ chain, resolver.compile (some rules) = .ok chain →
        (∀ piece ∈ rules.toList.splitOn Token.separator,
          Token.Bare piece ∨ Token.Paired piece) ∧
        ∀ before inside after, rules.toList = before ++ '[' :: (inside ++ ']' :: after) →
          ']' ∉ inside → Token.separator ∉ inside) ∧
      (Token.Severed rules.toList →
        (∃ e, resolver.compile (some rules) = .error e) ∧
        ∀ (r : Registry) (specs : List RuleSpec) (field : String), r.resolver = resolver →
          ⟨field, some rules⟩ ∈ specs →
          ∃ e, r.install specs = ⟨.error e, r⟩ ∧ r.step (.install specs) = (.refused e, r)) := by
  refine ⟨Factory.standard_refusesBrackets, ?_⟩
  intro resolver hfactory rules
  constructor
  · intro chain hchain
    refine ⟨Resolver.bare_or_paired_of_compile hfactory hchain, ?_⟩
    intro before inside after hrules hinside hseparator
    apply Resolver.not_severed_of_compile hfactory hchain
    rw [hrules]
    exact Token.severed_of_between hinside hseparator
  · intro hsevered
    obtain ⟨e, he⟩ : ∃ e, resolver.compile (some rules) = .error e := by
      cases hcompile : resolver.compile (some rules) with
      | ok chain => exact absurd hsevered (Resolver.not_severed_of_compile hfactory hcompile)
      | error e => exact ⟨e, rfl⟩
    refine ⟨⟨e, he⟩, ?_⟩
    rintro r specs field rfl hspec
    exact install_refused_of_mem hspec he

/-- A pattern with a bar in its brackets is refused, and so is a form that has a
field with it. -/
theorem no_separator_in_brackets_of_pattern :
    Token.Severed "required|pattern[a|b]".toList ∧
      (∃ e, Resolver.standard.compile (some "required|pattern[a|b]") = .error e) ∧
      ∃ e, new.install [⟨"code", some "required|pattern[a|b]"⟩] = ⟨.error e, new⟩ ∧
        new.step (.install [⟨"code", some "required|pattern[a|b]"⟩]) = (.refused e, new) := by
  have hsevered : Token.Severed "required|pattern[a|b]".toList :=
    ⟨"required|pattern".toList, ['a'], ['b', ']'], by decide, by decide⟩
  obtain ⟨hstandard, hall⟩ := no_separator_in_brackets
  obtain ⟨hcompile, hinstall⟩ := (hall .standard hstandard "required|pattern[a|b]").2 hsevered
  exact ⟨hsevered, hcompile, hinstall new _ "code" rfl List.mem_cons_self⟩

end FormRules.Registry
