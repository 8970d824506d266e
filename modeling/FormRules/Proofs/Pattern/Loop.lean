import FormRules.Proofs.Pattern.Feed
import Mathlib.Data.Finset.Card
import Mathlib.Data.Finset.Range

/-!
# Repeating without a bound

All rounds of an unbounded repetition share one memory.  The loop goes on as long
as it comes to places that have not been fed in before, and in each round it sees
one more of them at least, so there are enough rounds for all places of the text.
In the end the places that have been seen are all that the rounds lead to.
-/

namespace FormRules.Feed

open Pattern Place Relation

/-- The places of a text that have not been seen. -/
def missing (t : List Char) (seen : Nat) : Finset Nat :=
  (Finset.range (t.length + 1)).filter fun i => ¬ seen.testBit i

/-- The memory of a loop that has been fed the places of `s`: it has seen all
that they lead to in some rounds. -/
structure RecallsLoop (t : List Char) (r : Nat → Nat → Prop) (Recalls : Memory → Set Nat → Prop)
    (m : Memory) (s : Set Nat) : Prop where
  inner : Recalls m.inner (bits m.seen)
  index_le : ∀ i ∈ bits m.seen, i ≤ t.length
  seen_eq : bits m.seen = reach (Rounds r 0 none) s

/-- What holds between two rounds of a loop.  The loop was fed the places of `s`
in all, and it had seen those of `old` before the current ones of `s`. -/
structure LoopInv (t : List Char) (r : Nat → Nat → Prop) (Recalls : Memory → Set Nat → Prop)
    (s old : Set Nat) (out : List Place) (found : Nat) (m : Memory) (xs : List Place) : Prop where
  inner : Recalls m.inner (bits m.seen)
  index_le : ∀ i ∈ bits m.seen, i ≤ t.length
  allOf : AllOf t xs
  allOf_out : AllOf t out
  bits_found : bits found = indices out
  /-- Nothing has been seen but what the rounds lead to. -/
  sound : bits m.seen ∪ indices xs ⊆ reach (Rounds r 0 none) s
  start : s ⊆ bits m.seen ∪ indices xs
  /-- One round more leads to what has been seen or comes next. -/
  closed : reach r (bits m.seen) ⊆ bits m.seen ∪ indices xs
  leads : reach r old ∪ indices out = reach r (bits m.seen)

section

variable {t : List Char} {r : Nat → Nat → Prop} {Recalls : Memory → Set Nat → Prop} {f : Feed}
  {s old : Set Nat} {xs out : List Place} {m : Memory} {found fuel : Nat}

theorem card_missing_le (t : List Char) (seen : Nat) : (missing t seen).card ≤ t.length + 1 := by
  have := Finset.card_filter_le (Finset.range (t.length + 1)) fun i => ¬ seen.testBit i
  rwa [Finset.card_range] at this

/-- If no place is missing, all places have been seen. -/
theorem indices_subset_bits {seen : Nat} (h : (missing t seen).card = 0) (hxs : AllOf t xs) :
    indices xs ⊆ bits seen := by
  intro i hi
  by_contra hseen
  have hmem : i ∈ missing t seen := by
    rw [missing, Finset.mem_filter, Finset.mem_range]
    exact ⟨Nat.lt_succ_of_le (hxs.index_le hi), hseen⟩
  rw [Finset.card_eq_zero.1 h] at hmem
  exact Finset.notMem_empty i hmem

/-- With each place that is seen fewer are missing. -/
theorem card_missing_lt {seen seen' : Nat} (h : bits seen' = bits seen ∪ indices xs)
    (hxs : AllOf t xs) {i : Nat} (hi : i ∈ indices xs) (hnew : i ∉ bits seen) :
    (missing t seen').card < (missing t seen).card := by
  apply Finset.card_lt_card
  rw [Finset.ssubset_iff_of_subset]
  · refine ⟨i, ?_, ?_⟩
    · rw [missing, Finset.mem_filter, Finset.mem_range]
      exact ⟨Nat.lt_succ_of_le (hxs.index_le hi), hnew⟩
    · rw [missing, Finset.mem_filter, not_and, not_not]
      intro _
      have hmem : i ∈ bits seen' := h ▸ .inr hi
      exact hmem
  · intro j hj
    rw [missing, Finset.mem_filter] at hj ⊢
    refine ⟨hj.1, fun hb => hj.2 ?_⟩
    have hmem : j ∈ bits seen' := h ▸ .inl hb
    exact hmem

/-- The start of a loop. -/
theorem loopInv_init (hm : RecallsLoop t r Recalls m s) (hxs : AllOf t xs) :
    LoopInv t r Recalls (s ∪ indices xs) (bits m.seen) [] 0 m xs where
  inner := hm.inner
  index_le := hm.index_le
  allOf := hxs
  allOf_out := allOf_nil
  bits_found := by simp
  sound := by
    rw [hm.seen_eq, reach_union]
    apply Set.union_subset_union_right
    intro i hi
    exact ⟨i, hi, rounds_self r i⟩
  start := by
    apply Set.union_subset_union_left
    rw [hm.seen_eq]
    intro i hi
    exact ⟨i, hi, rounds_self r i⟩
  closed := by
    rw [hm.seen_eq]
    rintro j ⟨k, ⟨i, hi, hrounds⟩, hr⟩
    exact .inl ⟨i, hi, hrounds.step hr⟩
  leads := by simp

/-- A loop ends when no place comes that has not been seen. -/
theorem LoopInv.done (h : LoopInv t r Recalls s old out found m xs)
    (hxs : indices xs ⊆ bits m.seen) : RecallsLoop t r Recalls m s where
  inner := h.inner
  index_le := h.index_le
  seen_eq := by
    have hall : bits m.seen ∪ indices xs = bits m.seen := Set.union_eq_left.2 hxs
    have hsound := h.sound
    have hstart := h.start
    have hclosed := h.closed
    rw [hall] at hsound hstart hclosed
    apply Set.Subset.antisymm hsound
    rintro j ⟨i, hi, n, -, -, hsteps⟩
    exact reach_steps_subset hclosed n ⟨i, hstart hi, hsteps⟩

/-- One round of a loop. -/
theorem LoopInv.step (hf : Traces t r Recalls f)
    (h : LoopInv t r Recalls s old out found m xs) :
    let new := unseen m.seen xs
    let ys := f m.inner new.1
    let fresh := unseen found ys.1
    LoopInv t r Recalls s old (fresh.1 ++ out) fresh.2 (.loop new.2 ys.2) ys.1 := by
  have hnew := indices_unseen m.seen xs
  have hseen := bits_unseen m.seen xs
  have hnewof := h.allOf.mono (unseen_subset m.seen xs)
  rcases hun : unseen m.seen xs with ⟨new, seen⟩
  simp only [hun] at hnew hseen hnewof ⊢
  have hfed := hf.fed h.inner hnewof
  rcases hys : f m.inner new with ⟨ys, inner⟩
  rw [hys] at hfed
  have hfresh := indices_unseen found ys
  have hfound := bits_unseen found ys
  have hfreshof := hfed.allOf.mono (unseen_subset found ys)
  rcases hun' : unseen found ys with ⟨fresh, found'⟩
  simp only [hun'] at hfresh hfound hfreshof ⊢
  -- What the part has been fed in all are the places that have been seen now.
  have hadd : bits m.seen ∪ indices new = bits seen := by
    rw [hnew, hseen, Set.union_sdiff_self]
  have hreach : reach r (bits seen) = reach r (bits m.seen) ∪ indices ys := by
    rw [← hadd, hfed.leads_all]
  have hbits : bits seen ⊆ reach (Rounds r 0 none) s := by
    rw [hseen]
    exact h.sound
  have hcomes : indices ys ⊆ reach r (bits seen) := by
    rw [hreach]
    exact Set.subset_union_right
  refine ⟨?_, ?_, hfed.allOf, hfreshof.append h.allOf_out, ?_, ?_, ?_, ?_, ?_⟩
  · change Recalls inner (bits seen)
    rw [← hadd]
    exact hfed.recalls
  · intro i hi
    change i ∈ bits seen at hi
    rw [hseen] at hi
    rcases hi with hi | hi
    · exact h.index_le i hi
    · exact h.allOf.index_le hi
  · rw [hfound, h.bits_found, indices_append, hfresh, h.bits_found, Set.sdiff_union_self,
      Set.union_comm]
  · apply Set.union_subset hbits
    intro j hj
    obtain ⟨k, hk, hr⟩ := hcomes hj
    obtain ⟨i, hi, hrounds⟩ := hbits hk
    exact ⟨i, hi, hrounds.step hr⟩
  · change s ⊆ bits seen ∪ indices ys
    rw [hseen]
    exact h.start.trans Set.subset_union_left
  · change reach r (bits seen) ⊆ bits seen ∪ indices ys
    rw [hreach, hseen]
    exact Set.union_subset_union_left _ h.closed
  · change reach r old ∪ indices (fresh ++ out) = reach r (bits seen)
    rw [hreach, ← h.leads, indices_append, hfresh, h.bits_found, Set.sdiff_union_self,
      Set.union_assoc, Set.union_comm (indices ys)]

/-- With fuel for the places that are missing, a loop goes on to its end. -/
theorem LoopInv.run (hf : Traces t r Recalls f)
    (h : LoopInv t r Recalls s old out found m xs) (hfuel : (missing t m.seen).card ≤ fuel) :
    AllOf t (f.repeated fuel out found m xs).1 ∧
      RecallsLoop t r Recalls (f.repeated fuel out found m xs).2 s ∧
      reach r old ∪ indices (f.repeated fuel out found m xs).1 =
        reach r (bits (f.repeated fuel out found m xs).2.seen) := by
  induction fuel generalizing out found m xs with
  | zero =>
      have hall := indices_subset_bits (Nat.le_zero.1 hfuel) h.allOf
      exact ⟨h.allOf_out, h.done hall, h.leads⟩
  | succ fuel ih =>
      have hstep := h.step hf
      have hnew := indices_unseen m.seen xs
      have hseen := bits_unseen m.seen xs
      rw [Feed.repeated]
      rcases hun : unseen m.seen xs with ⟨new, seen⟩
      simp only [hun] at hstep hnew hseen ⊢
      split
      case isTrue hempty =>
        rw [List.isEmpty_iff] at hempty
        rw [hempty, indices_nil] at hnew
        exact ⟨h.allOf_out, h.done (Set.sdiff_eq_empty.1 hnew.symm), h.leads⟩
      case isFalse hne =>
        obtain ⟨i, hi⟩ : (indices new).Nonempty := by
          rw [Set.nonempty_iff_ne_empty, Ne, indices_eq_empty_iff, ← List.isEmpty_iff]
          exact hne
        rw [hnew] at hi
        have hless := card_missing_lt hseen h.allOf hi.1 hi.2
        exact ih hstep (Nat.le_of_lt_succ (Nat.lt_of_lt_of_le hless hfuel))

theorem traces_repeated (hf : Traces t r Recalls f) :
    Traces t (Rounds r 1 none) (RecallsLoop t r Recalls) (f.repeated (t.length + 1) [] 0) where
  fresh := by
    refine ⟨?_, ?_, ?_⟩
    · rw [show bits Memory.fresh.seen = ∅ from bits_zero]
      exact hf.fresh
    · intro i hi
      rw [show bits Memory.fresh.seen = ∅ from bits_zero] at hi
      contradiction
    · rw [reach_empty]
      exact bits_zero
  fed := by
    intro m s xs hm hxs
    obtain ⟨hall, hrecalls, hleads⟩ :=
      (loopInv_init hm hxs).run hf (card_missing_le t m.seen)
    refine ⟨hall, hrecalls, ?_⟩
    rw [rounds_one_none]
    simp only [reach_comp]
    rw [← hm.seen_eq, hleads, hrecalls.seen_eq, reach_union, reach_union, hm.seen_eq]

theorem Follows.repeated (hf : Follows t r f) :
    Follows t (Rounds r 1 none) (f.repeated (t.length + 1) [] 0) := by
  obtain ⟨Recalls, hf⟩ := hf
  exact ⟨_, traces_repeated hf⟩

/-- Places can be left where they are besides being fed to a part. -/
theorem Follows.orStay (hf : Follows t r f) :
    Follows t (fun i j => i = j ∨ r i j) fun m xs => (union xs (f m xs).1, (f m xs).2) := by
  obtain ⟨Recalls, hf⟩ := hf
  refine ⟨Recalls, hf.fresh, ?_⟩
  intro m s xs hm hxs
  have hfed := hf.fed hm hxs
  refine ⟨(hxs.append hfed.allOf).mono (union_subset _ _), hfed.recalls, ?_⟩
  rw [reach_or, reach_or, reach_eq, reach_eq, indices_union]
  calc s ∪ reach r s ∪ (indices xs ∪ indices (f m xs).1)
      = s ∪ indices xs ∪ (reach r s ∪ indices (f m xs).1) := Set.union_union_union_comm _ _ _ _
    _ = s ∪ indices xs ∪ (reach r s ∪ reach r (indices xs)) := by rw [hfed.leads]
    _ = s ∪ reach r s ∪ (indices xs ∪ reach r (indices xs)) := Set.union_union_union_comm _ _ _ _

end

end FormRules.Feed
