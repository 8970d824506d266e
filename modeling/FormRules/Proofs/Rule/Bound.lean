import FormRules.Proofs.Number.Order
import FormRules.Proofs.Rule.Argument
import FormRules.Proofs.Rule.Table

/-!
# Rules for bounds

The two rules for bounds compare the number of a value with the number that their
argument stands for.  A value without a number passes both.  A bound may be infinite, or
even no number, and then no number is within it.
-/

namespace FormRules

/-- The number that a value has: its own, or the one that a text stands for between
blanks. -/
inductive Value.HasNumber : Value → Float → Prop
  | number (x : Float) : HasNumber (.number x) x
  | text {s : String} {x : Float} (h : Number.readFloat (Text.trim s.toList) = .ok x) :
      HasNumber (.text s) x

namespace Validator

/-- The value passes in every form. -/
def Passes (v : Validator) (value : Value) : Prop :=
  ∀ fields, v.validate value fields = none

/-- The value fails in every form, with the name of the rule. -/
def Fails (v : Validator) (value : Value) : Prop :=
  ∀ fields, v.validate value fields = some v.rule

end Validator

/-- A rule for bounds takes an argument, which stands for a bound, and gives a
validator. -/
structure TakesBound (name argument : String) (bound : Float) (v : Validator) : Prop where
  created : Factory.standard.create name (some argument) = .ok v
  bound_eq : Number.readFloat (Text.trim argument.toList) = .ok bound

section

variable {value : Value} {x : Float}

theorem Value.number?_eq_some_iff : value.number? = some x ↔ value.HasNumber x := by
  constructor
  · intro h
    cases value with
    | null | bool => cases h
    | number y =>
        cases h
        exact .number x
    | text s =>
        cases hread : Number.readFloat (Text.trim s.toList) with
        | error fault => simp [number?, hread, Except.toOption] at h
        | ok y =>
            simp only [number?, hread, Except.toOption, Option.some.injEq] at h
            subst h
            exact .text hread
  · intro h
    cases h with
    | number => rfl
    | text h => simp [number?, h, Except.toOption]

/-- An empty value has no number. -/
theorem Value.HasNumber.isEmpty_eq_false (h : value.HasNumber x) : value.isEmpty = false := by
  cases h with
  | number => rfl
  | @text s _ hread =>
      by_contra hempty
      rw [Bool.not_eq_false, Value.isEmpty, String.isEmpty_iff] at hempty
      subst hempty
      contradiction

theorem Value.HasNumber.unique {y : Float} (hx : value.HasNumber x) (hy : value.HasNumber y) :
    x = y := by
  rw [← Value.number?_eq_some_iff] at hx hy
  exact Option.some.inj (hx.symm.trans hy)

/-- A test that asks something of a number asks it of all values that have one. -/
theorem isEmpty_or_all_number?_iff {test : Float → Bool} :
    (value.isEmpty || value.number?.all test) = true ↔ ∀ x, value.HasNumber x → test x = true := by
  rw [Bool.or_eq_true, Option.all_eq_true_iff_get]
  constructor
  · rintro (hempty | hall) x hx
    · rw [hx.isEmpty_eq_false] at hempty
      contradiction
    · have hsome := Value.number?_eq_some_iff.2 hx
      simpa [hsome] using hall
  · intro h
    refine .inr fun hsome => h _ (Value.number?_eq_some_iff.1 ?_)
    exact (Option.some_get hsome).symm

end

namespace Validator

variable {v : Validator} {P : Value → Prop} {value : Value}

theorem Decides.passes (h : v.Decides v.rule P) : v.Passes value ↔ P value := by
  constructor
  · intro hpasses
    exact (h.passes_iff value noFields).1 (hpasses noFields)
  · intro hP fields
    exact (h.passes_iff value fields).2 hP

theorem Decides.fails_iff (h : v.Decides v.rule P) : v.Fails value ↔ ¬ P value := by
  constructor
  · intro hfails hP
    have hpasses := (h.passes_iff value noFields).2 hP
    rw [hfails noFields] at hpasses
    contradiction
  · intro hP fields
    exact h.fails hP fields

/-- Values that agree on what is decided have the same verdict. -/
theorem Decides.validate_eq {code : Code} (h : v.Decides code P) {value' : Value}
    (hiff : P value ↔ P value') (fields : Lookup) :
    v.validate value fields = v.validate value' fields := by
  by_cases hP : P value
  · rw [(h.passes_iff value fields).2 hP, (h.passes_iff value' fields).2 (hiff.1 hP)]
  · rw [h.fails hP fields, h.fails (mt hiff.2 hP) fields]

section

variable {R : Float → Prop} {x : Float}
  (h : v.Decides v.rule fun value => ∀ x, value.HasNumber x → R x) (hx : value.HasNumber x)

include h hx

/-- What is asked of all numbers of a value is asked of the only one that it has. -/
theorem Decides.passes_of_number : v.Passes value ↔ R x := by
  rw [h.passes]
  exact ⟨fun hall => hall x hx, fun hR y hy => hx.unique hy ▸ hR⟩

theorem Decides.fails_of_number : v.Fails value ↔ ¬ R x := by
  rw [h.fails_iff, ← h.passes, h.passes_of_number hx]

/-- A value is judged as its number would be. -/
theorem Decides.validate_number (fields : Lookup) :
    v.validate value fields = v.validate (.number x) fields := by
  apply h.validate_eq
  rw [← h.passes, ← h.passes, h.passes_of_number hx, h.passes_of_number (.number x)]

end

end Validator

namespace TakesBound

variable {a name : String} {bound x : Float} {v : Validator} {value : Value}

/-- Both rules for bounds read their argument as a number. -/
theorem exists_create (hname : name ∈ Token.boundNames) :
    ∃ (rule : StandardRule) (test : Float → Value → Bool), rule.name = name ∧
      ∀ argument, Factory.standard.create name (some argument) =
        rule.withArgument (some argument) StandardRule.readBound test := by
  simp only [Token.boundNames, List.mem_cons, List.not_mem_nil, or_false] at hname
  rcases hname with rfl | rfl
  · exact ⟨.min, StandardRule.isAtLeast, rfl, fun _ => Factory.standard_create_name .min _⟩
  · exact ⟨.max, StandardRule.isAtMost, rfl, fun _ => Factory.standard_create_name .max _⟩

/-- An argument is accepted only if it stands for a bound. -/
theorem of_create (hname : name ∈ Token.boundNames)
    (h : Factory.standard.create name (some a) = .ok v) : ∃ bound, TakesBound name a bound v := by
  obtain ⟨rule, test, rfl, hcreate⟩ := exists_create hname
  have hread := h
  rw [hcreate, StandardRule.withArgument_some_eq_ok_iff] at hread
  obtain ⟨bound, hbound, -⟩ := hread
  exact ⟨bound, h, Traversal.mapError_eq_ok_iff.1 hbound⟩

theorem eq_testing (rule : StandardRule) {test : Float → Value → Bool}
    (h : TakesBound rule.name a bound v)
    (hrule : rule.build (some a) = rule.withArgument (some a) StandardRule.readBound test) :
    v = rule.testing (test bound) := by
  have hread : StandardRule.readBound a = .ok bound := Traversal.mapError_eq_ok_iff.2 h.bound_eq
  have hcreated := h.created
  rw [Factory.standard_create_name, hrule, StandardRule.withArgument_of_ok hread,
    Except.ok.injEq] at hcreated
  exact hcreated.symm

theorem decides_min (h : TakesBound "min" a bound v) :
    v.Decides v.rule fun value => ∀ x, value.HasNumber x → bound ≤ x := by
  obtain rfl := h.eq_testing .min rfl
  refine Validator.decides_of_test "min" fun value => ?_
  simp only [StandardRule.isAtLeast, isEmpty_or_all_number?_iff, decide_eq_true_eq]

theorem decides_max (h : TakesBound "max" a bound v) :
    v.Decides v.rule fun value => ∀ x, value.HasNumber x → x ≤ bound := by
  obtain rfl := h.eq_testing .max rfl
  refine Validator.decides_of_test "max" fun value => ?_
  simp only [StandardRule.isAtMost, isEmpty_or_all_number?_iff, decide_eq_true_eq]

section

variable {b : String} {lo hi : Float} {w : Validator}

/-- The values within two bounds. -/
theorem passes_both_iff (hv : TakesBound "min" a lo v) (hw : TakesBound "max" b hi w) :
    v.Passes value ∧ w.Passes value ↔
      value.isEmpty = true ∨ (∀ x, ¬ value.HasNumber x) ∨
        ∃ x, value.HasNumber x ∧ lo ≤ x ∧ x ≤ hi := by
  by_cases hnumber : ∃ x, value.HasNumber x
  · obtain ⟨x, hx⟩ := hnumber
    rw [hv.decides_min.passes_of_number hx, hw.decides_max.passes_of_number hx]
    constructor
    · intro hbetween
      exact .inr (.inr ⟨x, hx, hbetween⟩)
    · rintro (hempty | hnone | ⟨y, hy, hbetween⟩)
      · rw [hx.isEmpty_eq_false] at hempty
        contradiction
      · exact absurd hx (hnone x)
      · exact hx.unique hy ▸ hbetween
  · have hnone : ∀ x, ¬ value.HasNumber x := fun x hx => hnumber ⟨x, hx⟩
    rw [hv.decides_min.passes, hw.decides_max.passes]
    constructor
    · intro _
      exact .inr (.inl hnone)
    · intro _
      exact ⟨fun x hx => absurd hx (hnone x), fun x hx => absurd hx (hnone x)⟩

/-- What is no number is in no order, and nothing is between bounds in the wrong order. -/
theorem fails_of_number (hv : TakesBound "min" a lo v) (hw : TakesBound "max" b hi w)
    (hx : value.HasNumber x) :
    (lo.isNaN = true ∨ x.isNaN = true → v.Fails value) ∧
      (hi.isNaN = true ∨ x.isNaN = true → w.Fails value) ∧
      (hi < lo → v.Fails value ∨ w.Fails value) := by
  rw [hv.decides_min.fails_of_number hx, hw.decides_max.fails_of_number hx]
  refine ⟨fun hnan hle => ?_, fun hnan hle => ?_, fun hlt => ?_⟩
  · obtain ⟨hlo, hx⟩ := Number.isNaN_eq_false_of_le hle
    rw [hlo, hx] at hnan
    exact absurd hnan (by decide)
  · obtain ⟨hx, hhi⟩ := Number.isNaN_eq_false_of_le hle
    rw [hhi, hx] at hnan
    exact absurd hnan (by decide)
  · by_contra hboth
    rw [not_or, not_not, not_not] at hboth
    exact Number.not_lt_of_le (Number.le_trans hboth.1 hboth.2) hlt

theorem min_at_ends (h : TakesBound "min" a lo v) (hx : value.HasNumber x) :
    (lo = -(1 / 0) → (v.Passes value ↔ x.isNaN = false)) ∧
      (lo = 1 / 0 → (v.Passes value ↔ x = 1 / 0)) ∧
      (x = -(1 / 0) → (v.Passes value ↔ lo = -(1 / 0))) ∧
      (x = 1 / 0 → (v.Passes value ↔ lo.isNaN = false)) := by
  rw [h.decides_min.passes_of_number hx]
  refine ⟨?_, ?_, ?_, ?_⟩
  · rintro rfl
    exact Number.negInfinity_le_iff
  · rintro rfl
    exact Number.infinity_le_iff
  · rintro rfl
    exact Number.le_negInfinity_iff
  · rintro rfl
    exact Number.le_infinity_iff

theorem max_at_ends (h : TakesBound "max" b hi w) (hx : value.HasNumber x) :
    (hi = 1 / 0 → (w.Passes value ↔ x.isNaN = false)) ∧
      (hi = -(1 / 0) → (w.Passes value ↔ x = -(1 / 0))) ∧
      (x = 1 / 0 → (w.Passes value ↔ hi = 1 / 0)) ∧
      (x = -(1 / 0) → (w.Passes value ↔ hi.isNaN = false)) := by
  rw [h.decides_max.passes_of_number hx]
  refine ⟨?_, ?_, ?_, ?_⟩
  · rintro rfl
    exact Number.le_infinity_iff
  · rintro rfl
    exact Number.le_negInfinity_iff
  · rintro rfl
    exact Number.infinity_le_iff
  · rintro rfl
    exact Number.negInfinity_le_iff

theorem validate_number (hname : name ∈ Token.boundNames) (h : TakesBound name a bound v)
    (hx : value.HasNumber x) (fields : Lookup) :
    v.validate value fields = v.validate (.number x) fields := by
  simp only [Token.boundNames, List.mem_cons, List.not_mem_nil, or_false] at hname
  rcases hname with rfl | rfl
  · exact h.decides_min.validate_number hx fields
  · exact h.decides_max.validate_number hx fields

/-- A lower bound can be lowered. -/
theorem passes_min_of_le {lo' : Float} {v' : Validator} (h : TakesBound "min" a lo v)
    (h' : TakesBound "min" b lo' v') (hle : lo ≤ lo') (hpasses : v'.Passes value) :
    v.Passes value := by
  rw [h'.decides_min.passes] at hpasses
  exact h.decides_min.passes.2 fun x hx => Number.le_trans hle (hpasses x hx)

/-- An upper bound can be raised. -/
theorem passes_max_of_le {hi' : Float} {w' : Validator} (h : TakesBound "max" a hi w)
    (h' : TakesBound "max" b hi' w') (hle : hi ≤ hi') (hpasses : w.Passes value) :
    w'.Passes value := by
  rw [h.decides_max.passes] at hpasses
  exact h'.decides_max.passes.2 fun x hx => Number.le_trans (hpasses x hx) hle

end

end TakesBound

/-- **Rules for bounds.**  An argument that either rule accepts stands for a bound.  A value
passes both rules exactly when it has no number or its number is between the bounds, in
the order of doubles.  So what is no number fails every bound, and no number passes a bound
that is none; an infinite bound is passed by all numbers or by itself alone, and an
infinite number passes all bounds or itself alone; no number is between bounds in the wrong
order.  A text is judged by the number that it stands for.  What passes a bound passes every
wider one. -/
theorem numbers_between_bounds :
    (∀ name ∈ Token.boundNames, ∀ a v, Factory.standard.create name (some a) = .ok v →
      ∃ bound, TakesBound name a bound v) ∧
    (∀ a b lo hi v w, TakesBound "min" a lo v → TakesBound "max" b hi w → ∀ value : Value,
      (v.Passes value ∧ w.Passes value ↔
        value.isEmpty = true ∨ (∀ x, ¬ value.HasNumber x) ∨
          ∃ x, value.HasNumber x ∧ lo ≤ x ∧ x ≤ hi) ∧
      ∀ x, value.HasNumber x →
        (lo.isNaN = true ∨ x.isNaN = true → v.Fails value) ∧
        (hi.isNaN = true ∨ x.isNaN = true → w.Fails value) ∧
        (hi < lo → v.Fails value ∨ w.Fails value)) ∧
    (∀ a lo v, TakesBound "min" a lo v → ∀ value x, Value.HasNumber value x →
      (lo = -(1 / 0) → (v.Passes value ↔ x.isNaN = false)) ∧
      (lo = 1 / 0 → (v.Passes value ↔ x = 1 / 0)) ∧
      (x = -(1 / 0) → (v.Passes value ↔ lo = -(1 / 0))) ∧
      (x = 1 / 0 → (v.Passes value ↔ lo.isNaN = false))) ∧
    (∀ b hi w, TakesBound "max" b hi w → ∀ value x, Value.HasNumber value x →
      (hi = 1 / 0 → (w.Passes value ↔ x.isNaN = false)) ∧
      (hi = -(1 / 0) → (w.Passes value ↔ x = -(1 / 0))) ∧
      (x = 1 / 0 → (w.Passes value ↔ hi = 1 / 0)) ∧
      (x = -(1 / 0) → (w.Passes value ↔ hi.isNaN = false))) ∧
    (∀ name ∈ Token.boundNames, ∀ a bound v, TakesBound name a bound v →
      ∀ s x, Value.HasNumber (.text s) x → ∀ fields,
        v.validate (.text s) fields = v.validate (.number x) fields) ∧
    (∀ a b lo lo' v v', TakesBound "min" a lo v → TakesBound "min" b lo' v' → lo ≤ lo' →
      ∀ value, v'.Passes value → v.Passes value) ∧
    ∀ a b hi hi' w w', TakesBound "max" a hi w → TakesBound "max" b hi' w' → hi ≤ hi' →
      ∀ value, w.Passes value → w'.Passes value := by
  refine ⟨fun name hname a v h => TakesBound.of_create hname h, ?_, ?_, ?_, ?_, ?_, ?_⟩
  · intro a b lo hi v w hv hw value
    exact ⟨hv.passes_both_iff hw, fun x hx => hv.fails_of_number hw hx⟩
  · intro a lo v h value x hx
    exact h.min_at_ends hx
  · intro b hi w h value x hx
    exact h.max_at_ends hx
  · intro name hname a bound v h s x hx
    exact h.validate_number hname hx
  · intro a b lo lo' v v' h h' hle value
    exact h.passes_min_of_le h' hle
  · intro a b hi hi' w w' h h' hle value
    exact h.passes_max_of_le h' hle

/-- Blanks are left out of arguments and of texts, and a bound may be infinite. -/
theorem numbers_between_bounds_of_text :
    ∃ v w, TakesBound "min" "18" 18 v ∧ TakesBound "max" " inf " (1 / 0) w ∧
      v.Passes (.text " 30 ") ∧ w.Passes (.text " 30 ") := by
  have hmin : ∃ v, TakesBound "min" "18" 18 v := ⟨_, rfl, rfl⟩
  have hmax : ∃ w, TakesBound "max" " inf " (1 / 0) w := ⟨_, rfl, rfl⟩
  obtain ⟨v, hv⟩ := hmin
  obtain ⟨w, hw⟩ := hmax
  have hnumber : Value.HasNumber (.text " 30 ") 30 := .text rfl
  have hlower : (18 : Float) ≤ 30 := by decide
  have hupper : (30 : Float) ≤ 1 / 0 := by decide
  obtain ⟨-, hboth, -⟩ := numbers_between_bounds
  obtain ⟨hv', hw'⟩ := (hboth _ _ _ _ v w hv hw (.text " 30 ")).1.2
    (.inr (.inr ⟨30, hnumber, hlower, hupper⟩))
  exact ⟨v, w, hv, hw, hv', hw'⟩

/-- A bound that is no number is taken without complaint. -/
example : ∃ v, TakesBound "max" " NaN " Float.nan v := ⟨_, rfl, rfl⟩

end FormRules
