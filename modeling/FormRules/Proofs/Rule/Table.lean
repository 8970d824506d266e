import FormRules.Proofs.Rule.Codes

/-!
# The table of the rules

Which tokens a form with the standard rules accepts, and why it refuses the others, can
be read off a table: each name asks for no argument, for the name of a field, for a
count, for a bound or for a pattern.  An accepted token becomes a validator that goes by
the name of the token and fails with it.  Any other factory is asked for the names that
no custom rule has, and for no other ones.
-/

namespace FormRules

namespace Token

/-- The rules that take no argument. -/
def bareNames : List String :=
  ["required", "requiredtrue", "email", "valid_email", "valid_facebook"]

/-- The rules that take a count. -/
def countNames : List String := ["minlength", "maxlength"]

/-- The rules that take a bound. -/
def boundNames : List String := ["min", "max"]

/-- The rules that take an argument. -/
def argumentNames : List String := "matches" :: "pattern" :: countNames ++ boundNames

/-- The tokens that become validators. -/
inductive Accepted : Token → Prop
  | bare {name : String} (hname : name ∈ bareNames) : Accepted ⟨name, none⟩
  | agreement {argument : String} (hargument : Text.trimText argument ≠ "") :
      Accepted ⟨"matches", some argument⟩
  | count {name argument : String} {n : Nat} (hname : name ∈ countNames)
      (hargument : Number.readNatural (Text.trim argument.toList) = .ok n) :
      Accepted ⟨name, some argument⟩
  | bound {name argument : String} {x : Float} (hname : name ∈ boundNames)
      (hargument : Number.readFloat (Text.trim argument.toList) = .ok x) :
      Accepted ⟨name, some argument⟩
  | pattern {argument : String} {p : Pattern}
      (hargument : Pattern.read ("^(?:" ++ argument ++ ")$").toList = .ok p) :
      Accepted ⟨"pattern", some argument⟩

/-- Why a token is refused; the field is not known yet. -/
inductive Refused : Token → RuleError → Prop
  | unknown {name : String} {argument : Option String} (hname : name ∉ ruleNames) :
      Refused ⟨name, argument⟩ (.unknownRule "" name)
  | unexpected {name argument : String} (hname : name ∈ bareNames) :
      Refused ⟨name, some argument⟩ (.unexpectedArgument "" name argument)
  | missing {name : String} (hname : name ∈ argumentNames) :
      Refused ⟨name, none⟩ (.missingArgument "" name)
  | blank {argument : String} (hargument : Text.trimText argument = "") :
      Refused ⟨"matches", some argument⟩ (.missingArgument "" "matches")
  | count {name argument : String} {fault : Number.NaturalFault} (hname : name ∈ countNames)
      (hargument : Number.readNatural (Text.trim argument.toList) = .error fault) :
      Refused ⟨name, some argument⟩ (.invalidArgument "" name argument fault.reason)
  | bound {name argument : String} {fault : Number.LiteralFault} (hname : name ∈ boundNames)
      (hargument : Number.readFloat (Text.trim argument.toList) = .error fault) :
      Refused ⟨name, some argument⟩ (.invalidArgument "" name argument fault.reason)
  | pattern {argument : String} {fault : PatternFault}
      (hargument : Pattern.read ("^(?:" ++ argument ++ ")$").toList = .error fault) :
      Refused ⟨"pattern", some argument⟩ (.invalidArgument "" "pattern" argument fault.reason)

theorem Refused.fieldName {t : Token} {e : RuleError} (h : t.Refused e) : e.fieldName = "" := by
  cases h <;> rfl

end Token

namespace Resolver

/-- Custom rules are found in every form, whatever its factory. -/
theorem resolve_custom (r : Resolver) (rule : CustomRule) (argument : Option String) :
    r.resolve ⟨rule.name, argument⟩ = rule.build argument := by
  cases rule <;> rfl

/-- The factory is asked for the names that no custom rule has. -/
theorem resolve_of_not_custom (r : Resolver) {t : Token}
    (h : ∀ rule : CustomRule, t.name ≠ rule.name) :
    r.resolve t = r.factory.create t.name t.argument := by
  unfold resolve
  cases hname : CustomRule.ofName? t.name with
  | none => rfl
  | some rule => exact absurd (CustomRule.name_of_ofName? hname).symm (h rule)

theorem resolve_standard (rule : StandardRule) (argument : Option String) :
    standard.resolve ⟨rule.name, argument⟩ = rule.build argument := by
  cases rule <;> rfl

/-- Every form takes the name of another field as the argument for agreement, without the
blanks around it. -/
theorem resolve_agreement (r : Resolver) {argument : String} (h : Text.trimText argument ≠ "") :
    r.resolve ⟨"matches", some argument⟩ =
      .ok (CustomRule.agreesWith (Text.trimText argument)) := by
  have hempty : (Text.trimText argument).isEmpty = false := by
    rw [Bool.eq_false_iff, Ne, String.isEmpty_iff]
    exact h
  refine (r.resolve_custom .agreement _).trans ?_
  simp only [CustomRule.build, hempty, Bool.false_eq_true, if_false]

theorem resolve_blank_agreement (r : Resolver) {argument : String}
    (h : Text.trimText argument = "") :
    r.resolve ⟨"matches", some argument⟩ = .error (.missingArgument "" "matches") := by
  refine (r.resolve_custom .agreement _).trans ?_
  simp only [CustomRule.build, h]
  rfl

theorem resolve_unknown {name : String} (h : name ∉ ruleNames) (argument : Option String) :
    standard.resolve ⟨name, argument⟩ = .error (.unknownRule "" name) := by
  have hcustom : ∀ rule : CustomRule, name ≠ rule.name := by
    rintro rule rfl
    exact h (List.mem_append_right _ (List.mem_map_of_mem (by cases rule <;> decide)))
  have hstandard : StandardRule.ofName? name = none := by
    cases hname : StandardRule.ofName? name with
    | none => rfl
    | some rule =>
        obtain rfl := StandardRule.name_of_ofName? hname
        have hmem := List.mem_map_of_mem (f := StandardRule.name) (List.mem_of_find?_eq_some hname)
        exact absurd (List.mem_append_left _ hmem) h
  exact (standard.resolve_of_not_custom hcustom).trans
    (Factory.standard_create_of_none hstandard argument)

section

variable {t : Token} {e : RuleError} {v : Validator} {α : Type} {argument reason : String}
  {read : String → Except String α} {test : α → Value → Bool}

/-- A rule that reads its argument accepts what can be read. -/
theorem exists_resolve_of_read (rule : StandardRule)
    (hrule : rule.build (some argument) = rule.withArgument (some argument) read test) {a : α}
    (hread : read argument = .ok a) :
    ∃ v, standard.resolve ⟨rule.name, some argument⟩ = .ok v := by
  refine ⟨rule.testing (test a), (resolve_standard rule _).trans (hrule.trans ?_)⟩
  exact StandardRule.withArgument_some_eq_ok_iff.2 ⟨a, hread, rfl⟩

/-- A rule that reads its argument refuses all else, with the argument as it was given. -/
theorem resolve_of_unread (rule : StandardRule)
    (hrule : rule.build (some argument) = rule.withArgument (some argument) read test)
    (hread : read argument = .error reason) :
    standard.resolve ⟨rule.name, some argument⟩ =
      .error (.invalidArgument "" rule.name argument reason) := by
  refine (resolve_standard rule _).trans (hrule.trans ?_)
  simp only [StandardRule.withArgument, hread]

theorem exists_resolve_of_accepted (h : t.Accepted) : ∃ v, standard.resolve t = .ok v := by
  cases h with
  | bare hname =>
      simp only [Token.bareNames, List.mem_cons, List.not_mem_nil, or_false] at hname
      rcases hname with rfl | rfl | rfl | rfl | rfl <;> exact ⟨_, rfl⟩
  | agreement hargument => exact ⟨_, standard.resolve_agreement hargument⟩
  | @count _ argument n hname hargument =>
      have hread : StandardRule.readCount argument = .ok n :=
        Traversal.mapError_eq_ok_iff.2 hargument
      simp only [Token.countNames, List.mem_cons, List.not_mem_nil, or_false] at hname
      rcases hname with rfl | rfl
      · exact exists_resolve_of_read .minLength rfl hread
      · exact exists_resolve_of_read .maxLength rfl hread
  | @bound _ argument x hname hargument =>
      have hread : StandardRule.readBound argument = .ok x :=
        Traversal.mapError_eq_ok_iff.2 hargument
      simp only [Token.boundNames, List.mem_cons, List.not_mem_nil, or_false] at hname
      rcases hname with rfl | rfl
      · exact exists_resolve_of_read .min rfl hread
      · exact exists_resolve_of_read .max rfl hread
  | @pattern argument p hargument =>
      have hread : StandardRule.readPattern argument = .ok p :=
        Traversal.mapError_eq_ok_iff.2 hargument
      exact exists_resolve_of_read .pattern rfl hread

theorem resolve_of_refused (h : t.Refused e) : standard.resolve t = .error e := by
  cases h with
  | unknown hname => exact resolve_unknown hname _
  | unexpected hname =>
      simp only [Token.bareNames, List.mem_cons, List.not_mem_nil, or_false] at hname
      rcases hname with rfl | rfl | rfl | rfl | rfl <;> rfl
  | missing hname =>
      simp only [Token.argumentNames, Token.countNames, Token.boundNames, List.cons_append,
        List.nil_append, List.mem_cons, List.not_mem_nil, or_false] at hname
      rcases hname with rfl | rfl | rfl | rfl | rfl | rfl <;> rfl
  | blank hargument => exact standard.resolve_blank_agreement hargument
  | @count _ argument fault hname hargument =>
      have hread : StandardRule.readCount argument = .error fault.reason :=
        Traversal.mapError_eq_error_iff.2 ⟨fault, hargument, rfl⟩
      simp only [Token.countNames, List.mem_cons, List.not_mem_nil, or_false] at hname
      rcases hname with rfl | rfl
      · exact resolve_of_unread .minLength rfl hread
      · exact resolve_of_unread .maxLength rfl hread
  | @bound _ argument fault hname hargument =>
      have hread : StandardRule.readBound argument = .error fault.reason :=
        Traversal.mapError_eq_error_iff.2 ⟨fault, hargument, rfl⟩
      simp only [Token.boundNames, List.mem_cons, List.not_mem_nil, or_false] at hname
      rcases hname with rfl | rfl
      · exact resolve_of_unread .min rfl hread
      · exact resolve_of_unread .max rfl hread
  | @pattern argument fault hargument =>
      have hread : StandardRule.readPattern argument = .error fault.reason :=
        Traversal.mapError_eq_error_iff.2 ⟨fault, hargument, rfl⟩
      exact resolve_of_unread .pattern rfl hread

end

end Resolver

namespace Token

theorem mem_ruleNames_iff {name : String} : name ∈ ruleNames ↔
    name ∈ bareNames ∨ name = "matches" ∨ name ∈ countNames ∨ name ∈ boundNames ∨
      name = "pattern" := by
  simp only [ruleNames, Factory.standard, StandardRule.all, CustomRule.all, List.map_cons,
    List.map_nil, StandardRule.name, CustomRule.name, bareNames, countNames, boundNames,
    List.cons_append, List.nil_append, List.mem_cons, List.not_mem_nil, or_false]
  tauto

/-- Every token stands in the table. -/
theorem accepted_or_refused (t : Token) : t.Accepted ∨ ∃ e, t.Refused e := by
  obtain ⟨name, argument⟩ := t
  by_cases hknown : name ∈ ruleNames
  · rcases mem_ruleNames_iff.1 hknown with hname | rfl | hname | hname | rfl
    · cases argument with
      | none => exact .inl (.bare hname)
      | some argument => exact .inr ⟨_, .unexpected hname⟩
    · cases argument with
      | none => exact .inr ⟨_, .missing (by decide)⟩
      | some argument =>
          by_cases hargument : Text.trimText argument = ""
          · exact .inr ⟨_, .blank hargument⟩
          · exact .inl (.agreement hargument)
    · cases argument with
      | none => exact .inr ⟨_, .missing (by simp [argumentNames, hname])⟩
      | some argument =>
          cases hargument : Number.readNatural (Text.trim argument.toList) with
          | ok n => exact .inl (.count hname hargument)
          | error fault => exact .inr ⟨_, .count hname hargument⟩
    · cases argument with
      | none => exact .inr ⟨_, .missing (by simp [argumentNames, hname])⟩
      | some argument =>
          cases hargument : Number.readFloat (Text.trim argument.toList) with
          | ok x => exact .inl (.bound hname hargument)
          | error fault => exact .inr ⟨_, .bound hname hargument⟩
    · cases argument with
      | none => exact .inr ⟨_, .missing (by decide)⟩
      | some argument =>
          cases hargument : Pattern.read ("^(?:" ++ argument ++ ")$").toList with
          | ok p => exact .inl (.pattern hargument)
          | error fault => exact .inr ⟨_, .pattern hargument⟩
  · exact .inr ⟨_, .unknown hknown⟩

theorem refused_unknown_iff {t : Token} :
    t.Refused (.unknownRule "" t.name) ↔ t.name ∉ ruleNames := by
  constructor
  · intro h
    cases h with
    | unknown hname => exact hname
  · exact .unknown

end Token

namespace Resolver

theorem resolve_eq_error_iff {t : Token} {e : RuleError} :
    standard.resolve t = .error e ↔ t.Refused e := by
  refine ⟨fun h => ?_, resolve_of_refused⟩
  rcases t.accepted_or_refused with haccepted | ⟨e', hrefused⟩
  · obtain ⟨v, hv⟩ := exists_resolve_of_accepted haccepted
    rw [hv] at h
    contradiction
  · have h' := resolve_of_refused hrefused
    rw [h, Except.error.injEq] at h'
    exact h' ▸ hrefused

theorem exists_resolve_iff {t : Token} : (∃ v, standard.resolve t = .ok v) ↔ t.Accepted := by
  refine ⟨?_, exists_resolve_of_accepted⟩
  rintro ⟨v, hv⟩
  rcases t.accepted_or_refused with haccepted | ⟨e, hrefused⟩
  · exact haccepted
  · rw [resolve_of_refused hrefused] at hv
    contradiction

/-- **The table of the rules.**  A form with the standard rules accepts and refuses tokens
as the table says, refuses names that no rule has and only those as unknown, and leaves
the field of its errors open.  A token that it accepts gives a validator of the same name,
whose only failure is that name.  A form with any other factory treats the custom rules in
the same way, without regard to the factory, and asks the factory for all other names. -/
theorem tokens_decided :
    (∀ t, (∃ v, standard.resolve t = .ok v) ↔ t.Accepted) ∧
    (∀ t e, standard.resolve t = .error e ↔ t.Refused e) ∧
    (∀ t, standard.resolve t = .error (.unknownRule "" t.name) ↔
      t.name ∉ Factory.standard.names ∧ ∀ rule : CustomRule, t.name ≠ rule.name) ∧
    (∀ t e, standard.resolve t = .error e → e.fieldName = "") ∧
    (∀ t v, standard.resolve t = .ok v → v.rule = t.name ∧
      ∀ value fields code, v.validate value fields = some code → code = t.name) ∧
    ∀ (r : Resolver) (t : Token),
      (∀ rule : CustomRule, t.name = rule.name → r.resolve t = rule.build t.argument ∧
        r.resolve t = standard.resolve t) ∧
      ((∀ rule : CustomRule, t.name ≠ rule.name) →
        r.resolve t = r.factory.create t.name t.argument) := by
  refine ⟨fun t => exists_resolve_iff, fun t e => resolve_eq_error_iff, ?_, ?_, ?_, ?_⟩
  · intro t
    rw [resolve_eq_error_iff, Token.refused_unknown_iff, ruleNames, List.mem_append, not_or]
    refine and_congr_right fun _ => ?_
    rw [List.mem_map]
    constructor
    · rintro h rule hname
      exact h ⟨rule, by cases rule <;> decide, hname.symm⟩
    · rintro h ⟨rule, -, hname⟩
      exact h rule hname.symm
  · intro t e h
    exact (resolve_eq_error_iff.1 h).fieldName
  · intro t v h
    have hrule := rule_of_resolve h
    refine ⟨hrule, fun value fields code hcode => ?_⟩
    rw [← hrule]
    exact v.eq_rule_of_validate (standard_of_resolve h) hcode
  · rintro r ⟨name, argument⟩
    refine ⟨?_, r.resolve_of_not_custom⟩
    rintro rule rfl
    exact ⟨r.resolve_custom rule argument,
      (r.resolve_custom rule argument).trans (standard.resolve_custom rule argument).symm⟩

end Resolver

end FormRules
