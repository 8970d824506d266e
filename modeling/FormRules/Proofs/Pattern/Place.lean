import FormRules.Pattern.Matcher
import Mathlib.Order.BooleanAlgebra.Set
import Mathlib.Tactic.Tauto

/-!
# Places of a text

Matching works with lists of places, and all of them are places of the one text:
the characters before and behind a place are known from its number.  So a list
of places stands for the set of its numbers, `Place.indices`, and sets of
numbers are kept as bits.
-/

namespace FormRules

namespace Place

/-- This is a place of the text. -/
structure Of (t : List Char) (x : Place) : Prop where
  index_le : x.index ≤ t.length
  before_eq : x.before = Pattern.before t x.index
  rest_eq : x.rest = t.drop x.index

/-- All of these are places of the text. -/
def AllOf (t : List Char) (xs : List Place) : Prop := ∀ x ∈ xs, x.Of t

/-- The numbers of some places. -/
def indices (xs : List Place) : Set Nat := {i | ∃ x ∈ xs, x.index = i}

section

variable {t : List Char} {x y : Place} {xs ys : List Place} {i seen : Nat}

theorem mem_indices : i ∈ indices xs ↔ ∃ x ∈ xs, x.index = i := Iff.rfl

@[simp] theorem indices_nil : indices [] = ∅ := by
  ext i
  simp [mem_indices]

@[simp] theorem indices_append : indices (xs ++ ys) = indices xs ∪ indices ys := by
  ext i
  simp only [mem_indices, List.mem_append, Set.mem_union, or_and_right, exists_or]

theorem indices_cons : indices (x :: xs) = insert x.index (indices xs) := by
  ext i
  simp only [mem_indices, List.mem_cons, Set.mem_insert_iff, exists_eq_or_imp, @eq_comm _ i]

theorem indices_mono (h : xs ⊆ ys) : indices xs ⊆ indices ys := by
  rintro i ⟨x, hx, rfl⟩
  exact ⟨x, h hx, rfl⟩

theorem indices_eq_empty_iff : indices xs = ∅ ↔ xs = [] := by
  cases xs with
  | nil => simp
  | cons x xs => simp [indices_cons, (Set.insert_nonempty _ _).ne_empty]

/-- A place of a text is known from its number. -/
theorem Of.eq_of_index_eq (hx : x.Of t) (hy : y.Of t) (h : x.index = y.index) : x = y := by
  obtain ⟨i, before, rest⟩ := x
  obtain ⟨j, before', rest'⟩ := y
  obtain rfl : i = j := h
  obtain ⟨-, hbefore, hrest⟩ := hx
  obtain ⟨-, hbefore', hrest'⟩ := hy
  simp only at hbefore hrest hbefore' hrest'
  rw [hbefore, hbefore', hrest, hrest']

theorem Of.head?_rest (hx : x.Of t) : x.rest.head? = t[x.index]? := by
  rw [hx.rest_eq, List.head?_drop]

theorem allOf_nil : AllOf t [] := by simp [AllOf]

theorem AllOf.append (hx : AllOf t xs) (hy : AllOf t ys) : AllOf t (xs ++ ys) := by
  intro z hz
  rcases List.mem_append.1 hz with hz | hz
  · exact hx z hz
  · exact hy z hz

theorem AllOf.mono (hy : AllOf t ys) (h : xs ⊆ ys) : AllOf t xs :=
  fun x hx => hy x (h hx)

theorem AllOf.index_le (hx : AllOf t xs) (hi : i ∈ indices xs) : i ≤ t.length := by
  obtain ⟨x, hmem, rfl⟩ := hi
  exact (hx x hmem).index_le

/-- The place behind the next character. -/
theorem next?_eq_some_iff {s : CharSet} (hx : x.Of t) :
    x.next? s = some y ↔
      y.Of t ∧ y.index = x.index + 1 ∧ ∃ c, t[x.index]? = some c ∧ s.mem c = true := by
  have hhead := hx.head?_rest
  have hrest := hx.rest_eq
  cases hcase : x.rest with
  | nil =>
      rw [hcase, List.head?_nil] at hhead
      simp [next?, hcase, ← hhead]
  | cons c rest =>
      rw [hcase, List.head?_cons] at hhead
      have hlt : x.index < t.length := by
        by_contra hge
        rw [List.getElem?_eq_none (by omega)] at hhead
        contradiction
      have hof : Of t ⟨x.index + 1, some c, rest⟩ := by
        refine ⟨hlt, ?_, ?_⟩
        · simp [Pattern.before, hhead]
        · change rest = t.drop (x.index + 1)
          rw [← List.tail_drop, ← hrest, hcase, List.tail_cons]
      simp only [next?, hcase, ← hhead, Option.some.injEq, exists_eq_left']
      constructor
      · intro h
        split at h
        case isTrue hmem =>
          obtain rfl := Option.some.inj h
          exact ⟨hof, rfl, hmem⟩
        case isFalse => contradiction
      · rintro ⟨hy, hindex, hmem⟩
        rw [if_pos hmem, hy.eq_of_index_eq hof hindex]

theorem satisfies_eq (hx : x.Of t) (a : Anchor) :
    x.satisfies a = a.holds (Pattern.before t x.index) t[x.index]? := by
  rw [satisfies, hx.before_eq, hx.head?_rest]

/-- The places from one on. -/
theorem onward_spec {found : List Place} {before : Option Char} {rest : List Char}
    (hx : Of t ⟨i, before, rest⟩) (hfound : AllOf t found) :
    AllOf t (onward found i before rest) ∧
      indices (onward found i before rest) = indices found ∪ {j | i ≤ j ∧ j ≤ t.length} := by
  induction rest generalizing i before found with
  | nil =>
      have hend : i = t.length := by
        have hlen := congrArg List.length hx.rest_eq
        have hle : i ≤ t.length := hx.index_le
        simp only [List.length_nil, List.length_drop] at hlen
        omega
      refine ⟨?_, ?_⟩
      · intro y hy
        rcases List.mem_cons.1 hy with rfl | hy
        · exact hx
        · exact hfound y hy
      · rw [onward, indices_cons]
        ext j
        simp only [Set.mem_insert_iff, Set.mem_union, Set.mem_ofPred_eq]
        have : j = i ↔ i ≤ j ∧ j ≤ t.length := by omega
        tauto
  | cons c rest ih =>
      have hnext : Of t ⟨i + 1, some c, rest⟩ := by
        have hc : t[i]? = some c := by rw [← hx.head?_rest]; rfl
        have hstep : next? (.single c) ⟨i, before, c :: rest⟩ = some ⟨i + 1, some c, rest⟩ := by
          simp [next?, CharSet.mem, CharSet.single, CharSet.memCode]
        exact ((next?_eq_some_iff hx).1 hstep).1
      have hfound' : AllOf t (⟨i, before, c :: rest⟩ :: found) := by
        intro y hy
        rcases List.mem_cons.1 hy with rfl | hy
        · exact hx
        · exact hfound y hy
      obtain ⟨hall, hindices⟩ := ih hnext hfound'
      have hle : i ≤ t.length := hx.index_le
      refine ⟨hall, ?_⟩
      rw [onward, hindices, indices_cons]
      ext j
      simp only [Set.mem_insert_iff, Set.mem_union, Set.mem_ofPred_eq]
      have : j = i ∨ i + 1 ≤ j ∧ j ≤ t.length ↔ i ≤ j ∧ j ≤ t.length := by omega
      tauto

theorem start_of (t : List Char) : Of t ⟨0, none, t⟩ :=
  ⟨Nat.zero_le _, rfl, rfl⟩

theorem allOf_all (t : List Char) : AllOf t (all t) :=
  (onward_spec (start_of t) allOf_nil).1

theorem indices_all (t : List Char) : indices (all t) = {i | i ≤ t.length} := by
  rw [all, (onward_spec (start_of t) allOf_nil).2]
  simp

/-! ### Numbers as bits -/

/-- The numbers whose bits are set. -/
def bits (seen : Nat) : Set Nat := {i | seen.testBit i = true}

theorem mem_bits : i ∈ bits seen ↔ seen.testBit i = true := Iff.rfl

@[simp] theorem bits_zero : bits 0 = ∅ := by
  ext i
  simp [mem_bits]

theorem bits_or_shiftLeft (seen n : Nat) : bits (seen ||| 1 <<< n) = insert n (bits seen) := by
  ext i
  simp only [mem_bits, Nat.testBit_or, Nat.testBit_shiftLeft, Set.mem_insert_iff, Bool.or_eq_true,
    Bool.and_eq_true, decide_eq_true_eq, Nat.testBit_one_eq_true_iff_self_eq_zero]
  have : n ≤ i ∧ i - n = 0 ↔ i = n := by omega
  tauto

/-- Add a place to some unseen ones, unless its bit is set. -/
def addUnseen (found : List Place × Nat) (x : Place) : List Place × Nat :=
  if found.2.testBit x.index then found else (x :: found.1, found.2 ||| 1 <<< x.index)

theorem unseen_eq_foldl (seen : Nat) (xs : List Place) :
    unseen seen xs = xs.foldl addUnseen ([], seen) := rfl

theorem mem_foldl_addUnseen {found : List Place × Nat} (h : y ∈ (xs.foldl addUnseen found).1) :
    y ∈ found.1 ∨ y ∈ xs ∧ y.index ∉ bits found.2 := by
  induction xs generalizing found with
  | nil => exact .inl h
  | cons x xs ih =>
      rw [List.foldl_cons] at h
      by_cases hx : found.2.testBit x.index = true
      · rw [addUnseen, if_pos hx] at h
        rcases ih h with hy | ⟨hmem, hy⟩
        · exact .inl hy
        · exact .inr ⟨List.mem_cons_of_mem _ hmem, hy⟩
      · rw [addUnseen, if_neg hx] at h
        rcases ih h with hy | ⟨hmem, hy⟩
        · rcases List.mem_cons.1 hy with rfl | hy
          · exact .inr ⟨List.mem_cons_self, hx⟩
          · exact .inl hy
        · rw [bits_or_shiftLeft] at hy
          exact .inr ⟨List.mem_cons_of_mem _ hmem, fun hb => hy (Set.mem_insert_of_mem _ hb)⟩

theorem bits_foldl_addUnseen (xs : List Place) (found : List Place × Nat) :
    bits (xs.foldl addUnseen found).2 = bits found.2 ∪ indices xs := by
  induction xs generalizing found with
  | nil => simp
  | cons x xs ih =>
      rw [List.foldl_cons, ih, indices_cons, Set.union_insert, addUnseen]
      split
      case isTrue hx => rw [Set.insert_eq_of_mem (.inl hx)]
      case isFalse => rw [bits_or_shiftLeft, Set.insert_union]

/-- The bits that are added are those of the places that are added. -/
theorem bits_foldl_addUnseen_subset (xs : List Place) (found : List Place × Nat) :
    bits (xs.foldl addUnseen found).2 \ bits found.2 ⊆ indices (xs.foldl addUnseen found).1 ∧
      indices found.1 ⊆ indices (xs.foldl addUnseen found).1 := by
  induction xs generalizing found with
  | nil => simp
  | cons x xs ih =>
      obtain ⟨hnew, hold⟩ := ih (addUnseen found x)
      rw [List.foldl_cons]
      by_cases hx : found.2.testBit x.index = true
      · rw [addUnseen, if_pos hx] at hnew hold ⊢
        exact ⟨hnew, hold⟩
      · rw [addUnseen, if_neg hx, bits_or_shiftLeft] at hnew
        rw [addUnseen, if_neg hx, indices_cons] at hold
        rw [addUnseen, if_neg hx]
        refine ⟨?_, (Set.subset_insert _ _).trans hold⟩
        rintro i ⟨hi, hi'⟩
        by_cases heq : i = x.index
        · exact hold (.inl heq)
        · refine hnew ⟨hi, ?_⟩
          rintro (h | h)
          · exact heq h
          · exact hi' h

theorem bits_unseen (seen : Nat) (xs : List Place) :
    bits (unseen seen xs).2 = bits seen ∪ indices xs := by
  rw [unseen_eq_foldl, bits_foldl_addUnseen]

/-- The unseen ones of some places are those whose numbers were not among the
bits. -/
theorem indices_unseen (seen : Nat) (xs : List Place) :
    indices (unseen seen xs).1 = indices xs \ bits seen := by
  rw [unseen_eq_foldl]
  apply Set.Subset.antisymm
  · rintro i ⟨y, hy, rfl⟩
    rcases mem_foldl_addUnseen hy with h | ⟨h, hy⟩
    · simp at h
    · exact ⟨⟨y, h, rfl⟩, hy⟩
  · have hnew := (bits_foldl_addUnseen_subset xs ([], seen)).1
    rw [bits_foldl_addUnseen, Set.union_sdiff_left] at hnew
    exact hnew

/-- What is left out has been seen. -/
theorem indices_subset_unseen (seen : Nat) (xs : List Place) :
    indices xs ⊆ bits seen ∪ indices (unseen seen xs).1 := by
  rw [indices_unseen, Set.union_sdiff_self]
  exact Set.subset_union_right

theorem unseen_subset (seen : Nat) (xs : List Place) : (unseen seen xs).1 ⊆ xs := by
  intro y hy
  rw [unseen_eq_foldl] at hy
  rcases mem_foldl_addUnseen hy with h | ⟨h, -⟩
  · simp at h
  · exact h

theorem union_subset (xs ys : List Place) : union xs ys ⊆ xs ++ ys := by
  unfold union
  split
  · simp
  · simp
  · exact unseen_subset 0 _

theorem indices_union (xs ys : List Place) :
    indices (union xs ys) = indices xs ∪ indices ys := by
  unfold union
  split
  · simp
  · simp
  · rw [indices_unseen, bits_zero, Set.sdiff_empty, indices_append]

end

end Place

end FormRules
