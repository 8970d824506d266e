import FormRules.Proofs.Form.Lookup
import FormRules.Proofs.Rule.Table
import FormRules.Proofs.Rule.Vacant
import Mathlib

/-!
# Agreement with another field

A rule for agreement compares the value of its field with that of another one in the
same form.  It fails exactly when both fields have a value and the two values differ, so
it does not matter which of the two has the rule.  Values of different kinds always
differ; the two zeros are one number, and what is no number differs from everything,
also from itself.
-/

namespace FormRules

namespace Value

/-- Two values agree. -/
inductive Agrees : Value → Value → Prop
  | null : Agrees null null
  | bool (b : Bool) : Agrees (bool b) (bool b)
  | text (s : String) : Agrees (text s) (text s)
  /-- A number agrees with itself. -/
  | number {x : Float} (hx : x.isNaN = false) : Agrees (number x) (number x)
  /-- Both numbers are zero, with any sign. -/
  | zero {x y : Float} (hx : x = 0 ∨ x = -0) (hy : y = 0 ∨ y = -0) :
      Agrees (number x) (number y)

variable {a b : Value}

theorem number_agrees_iff {x y : Float} : Agrees (number x) (number y) ↔ (x == y) = true := by
  have hzero : (0 : Float) ≠ .nan := by decide
  have hneg : (-0 : Float) ≠ .nan := by decide
  rw [Float.beq_iff_ne_nan_and_eq]
  constructor
  · intro h
    cases h with
    | number hx => exact ⟨by simpa using hx, by simpa using hx, .inl rfl⟩
    | zero hx hy => rcases hx with rfl | rfl <;> rcases hy with rfl | rfl <;> simp [hzero, hneg]
  · rintro ⟨hx, -, rfl | ⟨rfl, rfl⟩ | ⟨rfl, rfl⟩⟩
    · exact .number (by simpa using hx)
    · exact .zero (.inl rfl) (.inr rfl)
    · exact .zero (.inr rfl) (.inl rfl)

theorem same_iff_agrees : (a == b) = true ↔ a.Agrees b := by
  change same a b = true ↔ _
  cases a <;> cases b
  case number.number x y => exact number_agrees_iff.symm
  case null.null => exact ⟨fun _ => .null, fun _ => rfl⟩
  case bool.bool x y =>
    rw [same, beq_iff_eq]
    exact ⟨fun h => h ▸ .bool x, fun h => by cases h; rfl⟩
  case text.text s t =>
    rw [same, beq_iff_eq]
    exact ⟨fun h => h ▸ .text s, fun h => by cases h; rfl⟩
  all_goals exact ⟨fun h => by contradiction, fun h => by contradiction⟩

theorem Agrees.symm (h : a.Agrees b) : b.Agrees a := by
  cases h with
  | null => exact .null
  | bool b => exact .bool b
  | text s => exact .text s
  | number hx => exact .number hx
  | zero hx hy => exact .zero hy hx

/-- Only what is no number differs from itself. -/
theorem not_agrees_self_iff : ¬ a.Agrees a ↔ ∃ x, a = number x ∧ x.isNaN = true := by
  constructor
  · intro h
    cases a with
    | null => exact absurd .null h
    | bool b => exact absurd (.bool b) h
    | text s => exact absurd (.text s) h
    | number x =>
        refine ⟨x, rfl, ?_⟩
        by_contra hx
        exact h (.number (Bool.eq_false_iff.2 hx))
  · rintro ⟨x, rfl, hx⟩ h
    have hself := number_agrees_iff.1 h
    rw [Float.beq_self_iff] at hself
    exact hself (by simpa using hx)

end Value

/-- A value disagrees with what is found in another field if neither is empty and they do
not agree. -/
theorem Validator.disagree_eq_true_iff {value : Value} {found : Option Value} :
    disagree value found = true ↔ ∃ other, found = some other ∧
      value.isEmpty = false ∧ other.isEmpty = false ∧ ¬ value.Agrees other := by
  cases found with
  | none => simp [disagree]
  | some other =>
      have hsame : (other == value) = true ↔ value.Agrees other := by
        rw [Value.same_iff_agrees]
        exact ⟨.symm, .symm⟩
      simp only [disagree, Bool.and_eq_true, Bool.not_eq_true', Bool.eq_false_iff, Ne, hsame,
        Option.some.injEq, exists_eq_left', and_assoc]

namespace Registry

/-- Two fields of a form differ: both are there and have a value, and the values do not
agree. -/
def Differ (r : Registry) (field other : String) : Prop :=
  ∃ c d, r.control? field = some c ∧ r.control? other = some d ∧
    c.state.value.isEmpty = false ∧ d.state.value.isEmpty = false ∧
    ¬ c.state.value.Agrees d.state.value

section

variable {r : Registry} {field other : String} {c d : Control}

theorem Differ.symm (h : r.Differ field other) : r.Differ other field := by
  obtain ⟨c, d, hc, hd, hvalue, hother, hne⟩ := h
  exact ⟨d, c, hd, hc, hother, hvalue, fun hagrees => hne hagrees.symm⟩

theorem differ_self_iff (hc : r.control? field = some c) :
    r.Differ field field ↔ ∃ x, c.state.value = .number x ∧ x.isNaN = true := by
  constructor
  · rintro ⟨c', d, hc', hd, -, -, hne⟩
    obtain rfl := Option.some.inj (hc.symm.trans hc')
    obtain rfl := Option.some.inj (hc.symm.trans hd)
    exact Value.not_agrees_self_iff.1 hne
  · intro hnumber
    have hne := Value.not_agrees_self_iff.2 hnumber
    obtain ⟨x, hx, -⟩ := hnumber
    have hvalue : c.state.value.isEmpty = false := by rw [hx]; rfl
    exact ⟨c, c, hc, hc, hvalue, hvalue, hne⟩

/-- A field is found by the lookup if it is there with a value; an empty one may not be. -/
theorem lookup_eq_some_iff {value : Value} (hvalue : value.isEmpty = false) :
    r.lookup other = some value ↔ ∃ d, r.control? other = some d ∧ d.state.value = value := by
  have hnull : value ≠ .null := by
    rintro rfl
    contradiction
  constructor
  · intro h
    cases hd : r.control? other with
    | none => simp [lookup, item?, hd] at h
    | some d => exact ⟨d, rfl, ((r.item?_eq_some_iff hd).1 h).1⟩
  · rintro ⟨d, hd, hsame⟩
    exact (r.item?_eq_some_iff hd).2 ⟨hsame, hnull⟩

theorem disagree_lookup_iff (hc : r.control? field = some c) :
    Validator.disagree c.state.value (r.lookup other) = true ↔ r.Differ field other := by
  rw [Validator.disagree_eq_true_iff]
  constructor
  · rintro ⟨value, hfound, hvalue, hother, hne⟩
    obtain ⟨d, hd, rfl⟩ := (lookup_eq_some_iff hother).1 hfound
    exact ⟨c, d, hc, hd, hvalue, hother, hne⟩
  · rintro ⟨c', d, hc', hd, hvalue, hother, hne⟩
    obtain rfl := Option.some.inj (hc.symm.trans hc')
    exact ⟨d.state.value, (lookup_eq_some_iff hother).2 ⟨d, hd, rfl⟩, hvalue, hother, hne⟩

/-- Agreement fails, with its own name, the field that differs from the other one. -/
theorem validate_agreesWith (other : String) (hc : r.control? field = some c) :
    ((CustomRule.agreesWith other).validate c.state.value r.lookup = some "matches" ↔
      r.Differ field other) ∧
    ((CustomRule.agreesWith other).validate c.state.value r.lookup = none ↔
      ¬ r.Differ field other) := by
  rw [← disagree_lookup_iff hc]
  cases hdisagree : Validator.disagree c.state.value (r.lookup other) <;>
    simp [Validator.validate, CustomRule.agreesWith, hdisagree, CustomRule.name]

end

/-- **Agreement inside of a form.**  The rule fails its field, with its own name, exactly
when the field differs from the one that the argument names, whose way of being empty
does not count.  Of two fields that name each other both fail or none; and a field
that names itself fails only if its value is no number. -/
theorem agreement_in_form (r : Registry) :
    (∀ field c argument, r.control? field = some c → Text.trimText argument ≠ "" →
      ∃ v, r.resolver.resolve ⟨"matches", some argument⟩ = .ok v ∧
        (v.validate c.state.value r.lookup = some "matches" ↔
          r.Differ field (Text.trimText argument)) ∧
        (v.validate c.state.value r.lookup = none ↔ ¬ r.Differ field (Text.trimText argument)) ∧
        ∀ fields, SameButVacant r.lookup fields →
          v.validate c.state.value fields = v.validate c.state.value r.lookup) ∧
    (∀ field other c d, r.control? field = some c → r.control? other = some d →
      Text.trimText field = field → field ≠ "" → Text.trimText other = other → other ≠ "" →
      ∃ v w, r.resolver.resolve ⟨"matches", some other⟩ = .ok v ∧
        r.resolver.resolve ⟨"matches", some field⟩ = .ok w ∧
        v.validate c.state.value r.lookup = w.validate d.state.value r.lookup) ∧
    ∀ field c, r.control? field = some c → Text.trimText field = field → field ≠ "" →
      ∃ v, r.resolver.resolve ⟨"matches", some field⟩ = .ok v ∧
        (v.validate c.state.value r.lookup = some "matches" ↔
          ∃ x, c.state.value = .number x ∧ x.isNaN = true) := by
  have hresolve : ∀ field, Text.trimText field = field → field ≠ "" →
      r.resolver.resolve ⟨"matches", some field⟩ = .ok (CustomRule.agreesWith field) := by
    intro field htrim hne
    have hnamed : Text.trimText field ≠ "" := by rwa [htrim]
    have h := r.resolver.resolve_agreement hnamed
    rwa [htrim] at h
  refine ⟨?_, ?_, ?_⟩
  · intro field c argument hc hargument
    obtain ⟨hfails, hpasses⟩ := validate_agreesWith (Text.trimText argument) hc
    refine ⟨_, r.resolver.resolve_agreement hargument, hfails, hpasses, ?_⟩
    intro fields hfields
    exact Validator.validate_congr_of_vacant (.inr ⟨_, rfl⟩) hfields _
  · intro field other c d hc hd hfield hne hother hne'
    refine ⟨_, _, hresolve other hother hne', hresolve field hfield hne, ?_⟩
    obtain ⟨hfails, hpasses⟩ := validate_agreesWith other hc
    obtain ⟨hfails', hpasses'⟩ := validate_agreesWith field hd
    by_cases hdiffer : r.Differ field other
    · rw [hfails.2 hdiffer, hfails'.2 hdiffer.symm]
    · rw [hpasses.2 hdiffer, hpasses'.2 fun h => hdiffer h.symm]
  · intro field c hc hfield hne
    refine ⟨_, hresolve field hfield hne, ?_⟩
    rw [(validate_agreesWith field hc).1, differ_self_iff hc]

end Registry

end FormRules
