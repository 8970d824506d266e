import Mathlib

/-!
# The order of doubles

Doubles are ordered by sign, then by exponent and then by mantissa, with the two zeros at
one place and the infinities at the ends.  What is no number has no place, so it is below
nothing and above nothing.
-/

namespace FormRules.Number

open Float.Model (UnpackedFloat)
open Float.Model.UnpackedFloat

/-- The place of an unpacked double in the order, if it has one.  Of two numbers below
zero the one with the larger exponent or mantissa comes first. -/
def placeOf : UnpackedFloat → Option (ℤ ×ₗ ℤ ×ₗ ℤ)
  | .infinity .negative => some (toLex (-2, toLex (0, 0)))
  | .finite .negative m e _ => some (toLex (-1, toLex (-e, -(m : ℤ))))
  | .zero _ => some (toLex (0, toLex (0, 0)))
  | .finite .positive m e _ => some (toLex (1, toLex (e, (m : ℤ))))
  | .infinity .positive => some (toLex (2, toLex (0, 0)))
  | .notANumber => none

/-- The place of a double in the order. -/
def place (x : Float) : Option (ℤ ×ₗ ℤ ×ₗ ℤ) := placeOf x.toModel.unpack

/-- Where the first parts agree, the other two decide. -/
theorem cmp_of_same_sign (k : ℤ) (p q : ℤ × ℤ) :
    cmp (toLex (k, toLex p)) (toLex (k, toLex q)) = (cmp p.1 q.1).then (cmp p.2 q.2) := by
  rw [cmp_eq_compare, cmp_eq_compare, cmp_eq_compare]
  show (compare k k).then ((compare p.1 q.1).then (compare p.2 q.2)) = _
  rw [compare_eq_iff_eq.2 rfl, Ordering.eq_then]

/-- Comparing two doubles is comparing their places. -/
theorem compare_eq_cmp (a b : UnpackedFloat) :
    a.compare b = (placeOf a).bind fun p => (placeOf b).map (cmp p) := by
  have hneg : StrictAnti fun k : ℤ => -k := fun _ _ => Int.neg_lt_neg
  have hcast (m n : ℕ) : cmp (m : ℤ) (n : ℤ) = compare m n := by
    rw [Nat.strictMono_cast.cmp_map_eq, cmp_eq_compare]
  rcases a with (⟨⟩ | ⟨⟩) | _ | _ | ⟨⟨⟩ | ⟨⟩, m, e, hm⟩ <;>
    rcases b with (⟨⟩ | ⟨⟩) | _ | _ | ⟨⟨⟩ | ⟨⟩, n, f, hn⟩
  case finite.positive.finite.positive =>
    show some ((compare e f).then (compare m n)) =
      some (cmp (toLex (1, toLex (e, (m : ℤ)))) (toLex (1, toLex (f, (n : ℤ)))))
    rw [cmp_of_same_sign, hcast, cmp_eq_compare]
  case finite.negative.finite.negative =>
    show some ((compare e f).then (compare m n)).swap =
      some (cmp (toLex (-1, toLex (-e, -(m : ℤ)))) (toLex (-1, toLex (-f, -(n : ℤ)))))
    have hexponent : cmp (-e) (-f) = (compare e f).swap := by
      rw [hneg.cmp_map_eq, ← cmp_swap, cmp_eq_compare]
    have hmantissa : cmp (-(m : ℤ)) (-(n : ℤ)) = (compare m n).swap := by
      rw [hneg.cmp_map_eq, ← cmp_swap, hcast]
    rw [cmp_of_same_sign, hexponent, hmantissa, Ordering.swap_then]
  -- in all other cases the signs decide, or one of the two is no number
  all_goals rfl

section

variable {x y z : Float}

theorem place_eq_none_iff : place x = none ↔ x.isNaN = true := by
  unfold place Float.isNaN Float.Model.isNaN
  rcases x.toModel.unpack with (⟨⟩ | ⟨⟩) | _ | _ | ⟨⟨⟩ | ⟨⟩, m, e, hm⟩ <;> simp [placeOf, isNaN]

theorem exists_place_iff : (∃ p, place x = some p) ↔ x.isNaN = false := by
  rw [← Option.isSome_iff_exists, Option.isSome_iff_ne_none, Ne, place_eq_none_iff,
    Bool.not_eq_true]

/-- A double is at most another one when both have a place and the places are in order. -/
theorem le_iff_place : x ≤ y ↔ ∃ p q, place x = some p ∧ place y = some q ∧ p ≤ q := by
  have hcompare : x ≤ y ↔ (x.toModel.unpack.compare y.toModel.unpack).any (·.isLE) = true :=
    decide_eq_true_iff
  rw [hcompare, compare_eq_cmp]
  show ((place x).bind fun p => (place y).map (cmp p)).any (·.isLE) = true ↔ _
  cases place x with
  | none => simp
  | some p =>
      cases place y with
      | none => simp
      | some q => simp [cmp_eq_compare, Ordering.isLE_iff_ne_gt, compare_le_iff_le]

theorem lt_iff_place : x < y ↔ ∃ p q, place x = some p ∧ place y = some q ∧ p < q := by
  have hcompare : x < y ↔ (x.toModel.unpack.compare y.toModel.unpack == some .lt) = true :=
    decide_eq_true_iff
  rw [hcompare, compare_eq_cmp]
  show (((place x).bind fun p => (place y).map (cmp p)) == some .lt) = true ↔ _
  cases place x with
  | none => simp
  | some p =>
      cases place y with
      | none => simp
      | some q => simp [cmp_eq_compare, compare_lt_iff_lt]

/-- What is in order has a place. -/
theorem isNaN_eq_false_of_le (h : x ≤ y) : x.isNaN = false ∧ y.isNaN = false := by
  obtain ⟨p, q, hx, hy, -⟩ := le_iff_place.1 h
  exact ⟨exists_place_iff.1 ⟨p, hx⟩, exists_place_iff.1 ⟨q, hy⟩⟩

theorem le_trans (hxy : x ≤ y) (hyz : y ≤ z) : x ≤ z := by
  obtain ⟨p, q, hx, hy, hpq⟩ := le_iff_place.1 hxy
  obtain ⟨q', r, hy', hz, hqr⟩ := le_iff_place.1 hyz
  obtain rfl : q = q' := Option.some.inj (hy.symm.trans hy')
  exact le_iff_place.2 ⟨p, r, hx, hz, hpq.trans hqr⟩

theorem not_lt_of_le (h : x ≤ y) : ¬ y < x := by
  intro hlt
  obtain ⟨p, q, hx, hy, hpq⟩ := le_iff_place.1 h
  obtain ⟨q', p', hy', hx', hqp⟩ := lt_iff_place.1 hlt
  obtain rfl : p = p' := Option.some.inj (hx.symm.trans hx')
  obtain rfl : q = q' := Option.some.inj (hy.symm.trans hy')
  exact absurd hqp (not_lt.2 hpq)

end

/-! ### The ends -/

section

variable {x : Float}

/-- Doubles that are unpacked alike are the same. -/
theorem eq_of_unpack_eq {y : Float} (h : x.toModel.unpack = y.toModel.unpack) : x = y := by
  have hbits := (unpack_inj_of_valid x.toModel.valid y.toModel.valid).1 h
  exact Float.toBits_inj.1 (UInt64.toBitVec_inj.1 hbits)

theorem place_infinity : place (1 / 0) = some (toLex (2, toLex (0, 0))) := by
  rfl

theorem place_negInfinity : place (-(1 / 0)) = some (toLex (-2, toLex (0, 0))) := by
  rfl

/-- The infinities have the last place and the first one. -/
theorem place_bounds {p : ℤ ×ₗ ℤ ×ₗ ℤ} (h : place x = some p) :
    (x = 1 / 0 ∨ p < toLex (2, toLex (0, 0))) ∧
      (x = -(1 / 0) ∨ toLex (-2, toLex (0, 0)) < p) := by
  have hbounds : ∀ u, placeOf u = some p →
      (u = .infinity .positive ∨ p < toLex (2, toLex (0, 0))) ∧
        (u = .infinity .negative ∨ toLex (-2, toLex (0, 0)) < p) := by
    intro u hu
    rcases u with (⟨⟩ | ⟨⟩) | _ | _ | ⟨⟨⟩ | ⟨⟩, m, e, hm⟩ <;> cases hu <;> simp [Prod.Lex.lt_iff]
  obtain ⟨hlast, hfirst⟩ := hbounds _ h
  exact ⟨hlast.imp_left fun hu => eq_of_unpack_eq hu, hfirst.imp_left fun hu => eq_of_unpack_eq hu⟩

/-- Every number is at most infinity. -/
theorem le_infinity_iff : x ≤ 1 / 0 ↔ x.isNaN = false := by
  constructor
  · intro h
    exact (isNaN_eq_false_of_le h).1
  · intro hx
    obtain ⟨p, hp⟩ := exists_place_iff.2 hx
    rcases (place_bounds hp).1 with rfl | hlt
    · exact le_iff_place.2 ⟨_, _, place_infinity, place_infinity, le_rfl⟩
    · exact le_iff_place.2 ⟨_, _, hp, place_infinity, hlt.le⟩

theorem negInfinity_le_iff : -(1 / 0) ≤ x ↔ x.isNaN = false := by
  constructor
  · intro h
    exact (isNaN_eq_false_of_le h).2
  · intro hx
    obtain ⟨p, hp⟩ := exists_place_iff.2 hx
    rcases (place_bounds hp).2 with rfl | hlt
    · exact le_iff_place.2 ⟨_, _, place_negInfinity, place_negInfinity, le_rfl⟩
    · exact le_iff_place.2 ⟨_, _, place_negInfinity, hp, hlt.le⟩

/-- Only infinity is at least infinity. -/
theorem infinity_le_iff : 1 / 0 ≤ x ↔ x = 1 / 0 := by
  constructor
  · intro h
    obtain ⟨p, q, hp, hq, hle⟩ := le_iff_place.1 h
    obtain rfl := Option.some.inj (place_infinity.symm.trans hp)
    exact (place_bounds hq).1.resolve_right (not_lt.2 hle)
  · rintro rfl
    exact le_infinity_iff.2 (by rfl)

theorem le_negInfinity_iff : x ≤ -(1 / 0) ↔ x = -(1 / 0) := by
  constructor
  · intro h
    obtain ⟨p, q, hp, hq, hle⟩ := le_iff_place.1 h
    obtain rfl := Option.some.inj (place_negInfinity.symm.trans hq)
    exact (place_bounds hp).2.resolve_right (not_lt.2 hle)
  · rintro rfl
    exact negInfinity_le_iff.2 (by rfl)

end

end FormRules.Number
