import FormRules.Pattern.Matcher
import Mathlib.Logic.Relation
import Mathlib.Order.SetNotation
import Mathlib.Data.Set.Basic

/-!
# Rounds of a repetition

What a pattern matches is a relation between places, and a repetition makes a
number of steps of it.  Fewer rounds than those written do where what is repeated
matches the empty text only, or the empty text everywhere; `roundsNeeded` leaves
the relation as it is.
-/

namespace FormRules.Pattern

open Relation

/-- The places that a relation leads to from a set of places. -/
def reach (r : Nat → Nat → Prop) (s : Set Nat) : Set Nat := {j | ∃ i ∈ s, r i j}

/-- A number of rounds between two bounds. -/
def Rounds (r : Nat → Nat → Prop) (min : Nat) (max : Option Nat) (i j : Nat) : Prop :=
  ∃ n, min ≤ n ∧ (∀ m, max = some m → n ≤ m) ∧ Steps r n i j

section

variable {r r' : Nat → Nat → Prop} {s s' : Set Nat} {i j k n m : Nat} {max : Option Nat}

theorem mem_reach : j ∈ reach r s ↔ ∃ i ∈ s, r i j := Iff.rfl

theorem reach_eq (s : Set Nat) : reach Eq s = s := by
  ext j
  simp [mem_reach]

@[simp] theorem reach_empty (r : Nat → Nat → Prop) : reach r ∅ = ∅ := by
  ext j
  simp [mem_reach]

@[simp] theorem reach_union (r : Nat → Nat → Prop) (s s' : Set Nat) :
    reach r (s ∪ s') = reach r s ∪ reach r s' := by
  ext j
  simp only [mem_reach, Set.mem_union, or_and_right, exists_or]

theorem reach_mono (r : Nat → Nat → Prop) (h : s ⊆ s') : reach r s ⊆ reach r s' := by
  rintro j ⟨i, hi, hr⟩
  exact ⟨i, h hi, hr⟩

theorem reach_comp (r r' : Nat → Nat → Prop) (s : Set Nat) :
    reach (Comp r r') s = reach r' (reach r s) := by
  ext j
  constructor
  · rintro ⟨i, hi, k, hr, hr'⟩
    exact ⟨k, ⟨i, hi, hr⟩, hr'⟩
  · rintro ⟨k, ⟨i, hi, hr⟩, hr'⟩
    exact ⟨i, hi, k, hr, hr'⟩

theorem reach_or (r r' : Nat → Nat → Prop) (s : Set Nat) :
    reach (fun i j => r i j ∨ r' i j) s = reach r s ∪ reach r' s := by
  ext j
  simp only [mem_reach, Set.mem_union, and_or_left, exists_or]

/-! ### Steps -/

theorem steps_zero : Steps r 0 = Eq := rfl

theorem steps_succ (r : Nat → Nat → Prop) (n : Nat) : Steps r (n + 1) = Comp r (Steps r n) := rfl

theorem steps_one : Steps r 1 i j ↔ r i j := by
  constructor
  · rintro ⟨k, hr, rfl⟩
    exact hr
  · intro hr
    exact ⟨j, hr, rfl⟩

theorem steps_add : Steps r (n + m) i j ↔ ∃ k, Steps r n i k ∧ Steps r m k j := by
  induction n generalizing i with
  | zero => simp [Steps]
  | succ n ih =>
      rw [Nat.succ_add_eq_add_succ, Nat.add_succ]
      constructor
      · rintro ⟨k, hr, hsteps⟩
        obtain ⟨l, hn, hm⟩ := ih.1 hsteps
        exact ⟨l, ⟨k, hr, hn⟩, hm⟩
      · rintro ⟨l, ⟨k, hr, hn⟩, hm⟩
        exact ⟨k, hr, ih.2 ⟨l, hn, hm⟩⟩

/-- Steps that stay where they are can be added. -/
theorem steps_of_le (hr : ∀ i, r i i) (h : n ≤ m) (hsteps : Steps r n i j) : Steps r m i j := by
  have hstay : ∀ n i, Steps r n i i := by
    intro n
    induction n with
    | zero => exact fun i => rfl
    | succ n ih => exact fun i => ⟨i, hr i, ih i⟩
  obtain ⟨extra, rfl⟩ := Nat.exists_eq_add_of_le h
  exact steps_add.2 ⟨j, hsteps, hstay extra j⟩

/-- One step that goes nowhere is as good as many. -/
theorem steps_succ_of_eq (hr : ∀ i j, r i j → i = j) : Steps r (n + 1) i j ↔ r i j := by
  induction n generalizing i with
  | zero => exact steps_one
  | succ n ih =>
      constructor
      · rintro ⟨k, hk, hsteps⟩
        obtain rfl := hr i k hk
        exact ih.1 hsteps
      · intro h
        obtain rfl := hr i j h
        exact ⟨i, h, ih.2 h⟩

/-- A set that no step leaves is not left by more steps either. -/
theorem reach_steps_subset (h : reach r s ⊆ s) (n : Nat) : reach (Steps r n) s ⊆ s := by
  induction n with
  | zero => rw [steps_zero, reach_eq]
  | succ n ih =>
      rw [steps_succ, reach_comp]
      exact (reach_mono _ h).trans ih

/-! ### Rounds -/

theorem rounds_add_none : Rounds r (n + 1) none = Comp (Steps r n) (Rounds r 1 none) := by
  ext i j
  constructor
  · rintro ⟨l, hl, -, hsteps⟩
    obtain ⟨k, hn, hrest⟩ := steps_add.1 (show Steps r (n + (l - n)) i j by
      rwa [Nat.add_sub_cancel' (by omega)])
    exact ⟨k, hn, l - n, by omega, by simp, hrest⟩
  · rintro ⟨k, hn, l, hl, -, hrest⟩
    exact ⟨n + l, by omega, by simp, steps_add.2 ⟨k, hn, hrest⟩⟩

theorem rounds_add_some (n m : Nat) :
    Rounds r n (some (n + m)) = Comp (Steps r n) (Rounds r 0 (some m)) := by
  ext i j
  constructor
  · rintro ⟨l, hl, hmax, hsteps⟩
    have hle := hmax _ rfl
    obtain ⟨k, hn, hrest⟩ := steps_add.1 (show Steps r (n + (l - n)) i j by
      rwa [Nat.add_sub_cancel' (by omega)])
    refine ⟨k, hn, l - n, Nat.zero_le _, ?_, hrest⟩
    rintro _ ⟨⟩
    omega
  · rintro ⟨k, hn, l, -, hmax, hrest⟩
    have hle := hmax _ rfl
    refine ⟨n + l, by omega, ?_, steps_add.2 ⟨k, hn, hrest⟩⟩
    rintro _ ⟨⟩
    omega

theorem rounds_zero_none : Rounds r 0 none i j ↔ i = j ∨ Rounds r 1 none i j := by
  constructor
  · rintro ⟨n, -, -, hsteps⟩
    cases n with
    | zero => exact .inl hsteps
    | succ n => exact .inr ⟨n + 1, by omega, by simp, hsteps⟩
  · rintro (rfl | ⟨n, -, -, hsteps⟩)
    · exact ⟨0, Nat.zero_le _, by simp, rfl⟩
    · exact ⟨n, Nat.zero_le _, by simp, hsteps⟩

theorem rounds_one_none : Rounds r 1 none = Comp (Rounds r 0 none) r := by
  ext i j
  constructor
  · rintro ⟨n, hn, -, hsteps⟩
    obtain ⟨n, rfl⟩ := Nat.exists_eq_add_of_le' hn
    obtain ⟨k, hsteps, hr⟩ := steps_add.1 hsteps
    exact ⟨k, ⟨n, Nat.zero_le _, by simp, hsteps⟩, steps_one.1 hr⟩
  · rintro ⟨k, ⟨n, -, -, hsteps⟩, hr⟩
    exact ⟨n + 1, by omega, by simp, steps_add.2 ⟨k, hsteps, steps_one.2 hr⟩⟩

theorem rounds_self (r : Nat → Nat → Prop) (i : Nat) : Rounds r 0 none i i :=
  rounds_zero_none.2 (.inl rfl)

theorem Rounds.step (h : Rounds r 0 none i k) (hr : r k j) : Rounds r 0 none i j := by
  rw [rounds_zero_none, rounds_one_none]
  exact .inr ⟨k, h, hr⟩

theorem rounds_zero_some_zero : Rounds r 0 (some 0) i j ↔ i = j := by
  constructor
  · rintro ⟨n, -, hmax, hsteps⟩
    obtain rfl : n = 0 := Nat.le_zero.1 (hmax 0 rfl)
    exact hsteps
  · rintro rfl
    exact ⟨0, Nat.le_refl _, fun m _ => Nat.zero_le m, rfl⟩

theorem rounds_zero_some_succ :
    Rounds r 0 (some (n + 1)) i j ↔ i = j ∨ Comp r (Rounds r 0 (some n)) i j := by
  constructor
  · rintro ⟨l, -, hmax, hsteps⟩
    have hle := hmax _ rfl
    cases l with
    | zero => exact .inl hsteps
    | succ l =>
        obtain ⟨k, hr, hsteps⟩ := hsteps
        refine .inr ⟨k, hr, l, Nat.zero_le _, ?_, hsteps⟩
        rintro _ ⟨⟩
        omega
  · rintro (rfl | ⟨k, hr, l, -, hmax, hsteps⟩)
    · exact ⟨0, Nat.le_refl _, fun m _ => Nat.zero_le m, rfl⟩
    · have hle := hmax _ rfl
      refine ⟨l + 1, Nat.zero_le _, ?_, k, hr, hsteps⟩
      rintro _ ⟨⟩
      omega

/-- Where a round goes nowhere, one of them is as good as all that are written. -/
theorem rounds_of_forall_eq (hr : ∀ i j, r i j → i = j) (hmax : ∀ m, max = some m → n ≤ m) :
    Rounds r (Nat.min n 1) (some (Nat.min n 1)) i j ↔ Rounds r n max i j := by
  cases n with
  | zero =>
      rw [show Nat.min 0 1 = 0 from rfl, rounds_zero_some_zero]
      constructor
      · rintro rfl
        exact ⟨0, Nat.le_refl _, fun m _ => Nat.zero_le m, rfl⟩
      · rintro ⟨l, -, -, hsteps⟩
        cases l with
        | zero => exact hsteps
        | succ l => exact hr i j ((steps_succ_of_eq hr).1 hsteps)
  | succ n =>
      rw [show Nat.min (n + 1) 1 = 1 from Nat.min_eq_right (by omega)]
      constructor
      · rintro ⟨l, hl, -, hsteps⟩
        obtain ⟨l, rfl⟩ := Nat.exists_eq_add_of_le' hl
        exact ⟨n + 1, Nat.le_refl _, hmax,
          (steps_succ_of_eq hr).2 ((steps_succ_of_eq hr).1 hsteps)⟩
      · rintro ⟨l, hl, -, hsteps⟩
        obtain ⟨l, rfl⟩ : ∃ k, l = k + 1 := ⟨l - 1, by omega⟩
        refine ⟨1, Nat.le_refl _, fun m hm => Nat.le_of_eq (Option.some.inj hm), ?_⟩
        exact steps_one.2 ((steps_succ_of_eq hr).1 hsteps)

/-- Where a round can stay where it is, the least number of rounds is none. -/
theorem rounds_of_forall_self (hr : ∀ i, r i i) (hmax : ∀ m, max = some m → n ≤ m) :
    Rounds r 0 max i j ↔ Rounds r n max i j := by
  constructor
  · rintro ⟨l, -, hl, hsteps⟩
    -- The rounds that are missing stay where they are.
    refine ⟨Nat.max n l, Nat.le_max_left _ _, ?_, steps_of_le hr (Nat.le_max_right _ _) hsteps⟩
    intro m hm
    exact Nat.max_le.2 ⟨hmax m hm, hl m hm⟩
  · rintro ⟨l, -, hl, hsteps⟩
    exact ⟨l, Nat.zero_le _, hl, hsteps⟩

end

/-! ### Rounds that are needed -/

section

variable {p : Pattern} {t : List Char} {i j : Nat}

theorem spans_iter (p : Pattern) (t : List Char) (min : Nat) (max : Option Nat) :
    (iter p min max).Spans t = Rounds (p.Spans t) min max := rfl

/-- A pattern that matches no text but the empty one goes nowhere. -/
theorem eq_of_spans_of_isEmptyOnly (h : p.isEmptyOnly = true) (hspans : p.Spans t i j) :
    i = j := by
  induction p generalizing i j with
  | empty => exact hspans
  | one s => simp [isEmptyOnly] at h
  | look a => exact hspans.1
  | seq p q ihp ihq =>
      simp only [isEmptyOnly, Bool.and_eq_true] at h
      obtain ⟨k, hp, hq⟩ := hspans
      rw [ihp h.1 hp, ihq h.2 hq]
  | alt p q ihp ihq =>
      simp only [isEmptyOnly, Bool.and_eq_true] at h
      rcases hspans with hp | hq
      · exact ihp h.1 hp
      · exact ihq h.2 hq
  | iter p min max ih =>
      simp only [isEmptyOnly, Bool.or_eq_true, beq_iff_eq] at h
      obtain ⟨n, -, hmax, hsteps⟩ := hspans
      cases n with
      | zero => exact hsteps
      | succ n =>
          rcases h with h | rfl
          · have hgoes : ∀ i j, p.Spans t i j → i = j := fun i j => ih h
            exact ih h ((steps_succ_of_eq hgoes).1 hsteps)
          · have := hmax 0 rfl
            omega

/-- A pattern that is known to match the empty text everywhere does. -/
theorem spans_self_of_matchesEmpty (h : p.matchesEmpty = true) (i : Nat) : p.Spans t i i := by
  induction p generalizing i with
  | empty => rfl
  | one s => simp [matchesEmpty] at h
  | look a => simp [matchesEmpty] at h
  | seq p q ihp ihq =>
      simp only [matchesEmpty, Bool.and_eq_true] at h
      exact ⟨i, ihp h.1 i, ihq h.2 i⟩
  | alt p q ihp ihq =>
      simp only [matchesEmpty, Bool.or_eq_true] at h
      rcases h with h | h
      · exact .inl (ihp h i)
      · exact .inr (ihq h i)
  | iter p min max ih =>
      simp only [matchesEmpty, Bool.and_eq_true, Bool.or_eq_true, beq_iff_eq] at h
      obtain ⟨h, hmax⟩ := h
      refine ⟨min, Nat.le_refl _, ?_, ?_⟩
      · rintro m rfl
        simpa using hmax
      · rcases h with rfl | h
        · rfl
        · exact steps_of_le (ih h) (Nat.zero_le _) rfl

/-- The rounds that are made lead where the rounds that are written lead. -/
theorem rounds_roundsNeeded (p : Pattern) (t : List Char) {min : Nat} {max : Option Nat}
    (hmax : ∀ m, max = some m → min ≤ m) :
    Rounds (p.Spans t) (p.roundsNeeded min max).1
        ((p.roundsNeeded min max).2.map ((p.roundsNeeded min max).1 + ·)) =
      Rounds (p.Spans t) min max := by
  unfold roundsNeeded
  ext i j
  by_cases hempty : p.isEmptyOnly = true
  · rw [if_pos hempty]
    exact rounds_of_forall_eq (fun i j => eq_of_spans_of_isEmptyOnly hempty) hmax
  rw [if_neg hempty]
  by_cases hmatches : p.matchesEmpty = true
  · have hsame : max.map (0 + ·) = max := by cases max <;> simp
    rw [if_pos hmatches]
    simp only [hsame]
    exact rounds_of_forall_self (spans_self_of_matchesEmpty hmatches) hmax
  · have hsame : (max.map (· - min)).map (min + ·) = max := by
      cases max with
      | none => rfl
      | some m =>
          have hle := hmax m rfl
          simp only [Option.map_some, Nat.add_sub_cancel' hle]
    rw [if_neg hmatches]
    simp only [hsame]

end

end FormRules.Pattern
