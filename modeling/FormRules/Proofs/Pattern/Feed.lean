import FormRules.Proofs.Pattern.Place
import FormRules.Proofs.Pattern.Rounds
import Mathlib.Data.Finset.Card

/-!
# Feeding with a memory

A part of a pattern that has been fed places before leaves out what these led
to.  So what comes out of it is not all that the new places lead to, but it is
all of that together with what came out before.  `Fed` says so of one feeding,
and `Follows` of a part: whatever it has been fed before, it leads where a
relation leads.  Here are the ways to build parts out of parts.
-/

namespace FormRules

namespace Memory

@[simp] theorem left_join (a b : Memory) : (a.join b).left = a := by
  cases a <;> cases b <;> rfl

@[simp] theorem right_join (a b : Memory) : (a.join b).right = b := by
  cases a <;> cases b <;> rfl

end Memory

namespace Feed

open Pattern Place Relation

/-- What comes out when places are fed to a part that has been fed the places of
the numbers `s` before. -/
structure Fed (t : List Char) (r : Nat → Nat → Prop) (Recalls : Memory → Set Nat → Prop)
    (s : Set Nat) (xs : List Place) (out : List Place × Memory) : Prop where
  allOf : AllOf t out.1
  /-- The memory is one of all places so far. -/
  recalls : Recalls out.2 (s ∪ indices xs)
  /-- Together with what came out before, all that is led to comes out. -/
  leads : reach r s ∪ indices out.1 = reach r s ∪ reach r (indices xs)

/-- A part leads where a relation leads, if its memory is one of the places that
it has been fed before. -/
structure Traces (t : List Char) (r : Nat → Nat → Prop) (Recalls : Memory → Set Nat → Prop)
    (f : Feed) : Prop where
  fresh : Recalls .fresh ∅
  fed : ∀ {m s xs}, Recalls m s → AllOf t xs → Fed t r Recalls s xs (f m xs)

/-- A part leads where a relation leads, whatever it has been fed before. -/
def Follows (t : List Char) (r : Nat → Nat → Prop) (f : Feed) : Prop :=
  ∃ Recalls, Traces t r Recalls f

section

variable {t : List Char} {r r' : Nat → Nat → Prop} {Recalls Recalls' : Memory → Set Nat → Prop}
  {s : Set Nat} {xs : List Place} {m : Memory} {f g : Feed} {out out' : List Place × Memory}

theorem Fed.leads_all (h : Fed t r Recalls s xs out) :
    reach r s ∪ indices out.1 = reach r (s ∪ indices xs) := by
  rw [h.leads, reach_union]

theorem Fed.subset (h : Fed t r Recalls s xs out) :
    indices out.1 ⊆ reach r (s ∪ indices xs) := by
  rw [← h.leads_all]
  exact Set.subset_union_right

theorem Follows.congr (hf : Follows t r f) (h : ∀ m xs, g m xs = f m xs) : Follows t r g := by
  obtain rfl : g = f := funext fun m => funext (h m)
  exact hf

/-- Nothing comes of nothing. -/
theorem fed_nil (h : Recalls m s) : Fed t r Recalls s [] ([], m) where
  allOf := allOf_nil
  recalls := by simpa using h
  leads := by simp

/-- A part without memory. -/
theorem follows_of_forget (h : ∀ m xs, AllOf t xs →
    AllOf t (f m xs).1 ∧ indices (f m xs).1 = reach r (indices xs)) : Follows t r f := by
  refine ⟨fun _ _ => True, trivial, ?_⟩
  intro m s xs _ hxs
  obtain ⟨hall, hindices⟩ := h m xs hxs
  exact ⟨hall, trivial, by rw [hindices]⟩

/-! ### One part after the other -/

/-- Two memories, the second one of what the first part leads to. -/
def RecallsBoth (r : Nat → Nat → Prop) (Recalls Recalls' : Memory → Set Nat → Prop) (m : Memory)
    (s : Set Nat) : Prop :=
  Recalls m.left s ∧ Recalls' m.right (reach r s)

theorem Fed.comp (hf : Fed t r Recalls s xs out)
    (hg : Fed t r' Recalls' (reach r s) out.1 out') :
    Fed t (Comp r r') (RecallsBoth r Recalls Recalls') s xs (out'.1, out.2.join out'.2) where
  allOf := hg.allOf
  recalls := by
    refine ⟨?_, ?_⟩
    · rw [Memory.left_join]
      exact hf.recalls
    · rw [Memory.right_join, ← hf.leads_all]
      exact hg.recalls
  leads := by
    simp only [reach_comp]
    rw [hg.leads_all, hf.leads_all, reach_union, reach_union]

theorem traces_comp (hf : Traces t r Recalls f) (hg : Traces t r' Recalls' g) :
    Traces t (Comp r r') (RecallsBoth r Recalls Recalls') fun m xs =>
      ((g m.right (f m.left xs).1).1, (f m.left xs).2.join (g m.right (f m.left xs).1).2) where
  fresh := by
    refine ⟨hf.fresh, ?_⟩
    rw [reach_empty]
    exact hg.fresh
  fed := by
    rintro m s xs ⟨hm, hm'⟩ hxs
    have hfed := hf.fed hm hxs
    exact hfed.comp (hg.fed hm' hfed.allOf)

theorem Follows.comp (hf : Follows t r f) (hg : Follows t r' g) :
    Follows t (Comp r r') fun m xs =>
      ((g m.right (f m.left xs).1).1, (f m.left xs).2.join (g m.right (f m.left xs).1).2) := by
  obtain ⟨Recalls, hf⟩ := hf
  obtain ⟨Recalls', hg⟩ := hg
  exact ⟨_, traces_comp hf hg⟩

/-- The second part need not be fed when nothing comes out of the first one. -/
theorem Follows.comp_isEmpty (hf : Follows t r f) (hg : Follows t r' g) :
    Follows t (Comp r r') fun m xs =>
      if (f m.left xs).1.isEmpty then ([], (f m.left xs).2.join m.right)
      else ((g m.right (f m.left xs).1).1, (f m.left xs).2.join (g m.right (f m.left xs).1).2) := by
  obtain ⟨Recalls, hf⟩ := hf
  obtain ⟨Recalls', hg⟩ := hg
  refine ⟨_, (traces_comp hf hg).fresh, ?_⟩
  rintro m s xs ⟨hm, hm'⟩ hxs
  have hfed := hf.fed hm hxs
  split
  case isTrue hempty =>
    rw [List.isEmpty_iff] at hempty
    have hnone : Fed t r' Recalls' (reach r s) (f m.left xs).1 ([], m.right) := by
      rw [hempty]
      exact fed_nil hm'
    exact hfed.comp hnone
  case isFalse => exact hfed.comp (hg.fed hm' hfed.allOf)

/-! ### A choice -/

theorem Follows.alt (hf : Follows t r f) (hg : Follows t r' g) :
    Follows t (fun i j => r i j ∨ r' i j) fun m xs =>
      (union (f m.left xs).1 (g m.right xs).1, (f m.left xs).2.join (g m.right xs).2) := by
  obtain ⟨Recalls, hf⟩ := hf
  obtain ⟨Recalls', hg⟩ := hg
  refine ⟨fun m s => Recalls m.left s ∧ Recalls' m.right s, ⟨hf.fresh, hg.fresh⟩, ?_⟩
  rintro m s xs ⟨hm, hm'⟩ hxs
  have hfed := hf.fed hm hxs
  have hfed' := hg.fed hm' hxs
  refine ⟨(hfed.allOf.append hfed'.allOf).mono (union_subset _ _), ?_, ?_⟩
  · rw [Memory.left_join, Memory.right_join]
    exact ⟨hfed.recalls, hfed'.recalls⟩
  · simp only [reach_or, indices_union]
    calc reach r s ∪ reach r' s ∪ (indices (f m.left xs).1 ∪ indices (g m.right xs).1)
        = (reach r s ∪ indices (f m.left xs).1) ∪ (reach r' s ∪ indices (g m.right xs).1) :=
          Set.union_union_union_comm _ _ _ _
      _ = (reach r s ∪ reach r (indices xs)) ∪ (reach r' s ∪ reach r' (indices xs)) := by
          rw [hfed.leads, hfed'.leads]
      _ = reach r s ∪ reach r' s ∪ (reach r (indices xs) ∪ reach r' (indices xs)) :=
          Set.union_union_union_comm _ _ _ _

/-! ### A fixed number of rounds -/

theorem Follows.times (hf : Follows t r f) (n : Nat) : Follows t (Steps r n) (f.times n) := by
  obtain ⟨Recalls, hf⟩ := hf
  induction n with
  | zero =>
      refine follows_of_forget fun m xs hxs => ⟨hxs, ?_⟩
      rw [steps_zero, reach_eq]
      rfl
  | succ n ih =>
      obtain ⟨Recalls', hrest⟩ := ih
      refine ⟨RecallsBoth r Recalls Recalls', (traces_comp hf hrest).fresh, ?_⟩
      intro m s xs hm hxs
      rw [Feed.times]
      split
      case isTrue hempty =>
        rw [List.isEmpty_iff] at hempty
        rw [hempty]
        exact fed_nil hm
      case isFalse => exact (traces_comp hf hrest).fed hm hxs

/-! ### A bounded number of rounds -/

/-- The memory of rounds that may end early: `known` are the places that fewer
rounds lead to, `s` those of this round, and `out` those of all rounds from this
one on.  A place that fewer rounds lead to may be left out. -/
def RecallsUpTo (r : Nat → Nat → Prop) (Recalls : Memory → Set Nat → Prop) :
    Nat → Memory → Set Nat → Set Nat → Set Nat → Prop
  | 0, _, _, s, out => out = s
  | n + 1, m, known, s, out =>
      Recalls m.left s ∧ ∃ next later, next ⊆ reach r s ∧ reach r s ⊆ known ∪ s ∪ next ∧
        RecallsUpTo r Recalls n m.right (known ∪ s) next later ∧ out = s ∪ later

/-- A round is remembered beside those after it. -/
theorem RecallsUpTo.succ {n : Nat} {known s next later : Set Nat} {left right : Memory}
    (hleft : Recalls left s) (hnext : next ⊆ reach r s) (hreach : reach r s ⊆ known ∪ s ∪ next)
    (hright : RecallsUpTo r Recalls n right (known ∪ s) next later) :
    RecallsUpTo r Recalls (n + 1) (left.join right) known s (s ∪ later) := by
  refine ⟨?_, next, later, hnext, hreach, ?_, rfl⟩
  · rw [Memory.left_join]
    exact hleft
  · rw [Memory.right_join]
    exact hright

theorem RecallsUpTo.mono {n : Nat} {known known' s out : Set Nat}
    (h : RecallsUpTo r Recalls n m known s out) (hknown : known ⊆ known') :
    RecallsUpTo r Recalls n m known' s out := by
  induction n generalizing m known known' s out with
  | zero => exact h
  | succ n ih =>
      obtain ⟨hm, next, later, hnext, hreach, hlater, hout⟩ := h
      have hmore := Set.union_subset_union_left s hknown
      exact ⟨hm, next, later, hnext, hreach.trans (Set.union_subset_union_left next hmore),
        ih hlater hmore, hout⟩

/-- All that the rounds lead to is known before or comes out. -/
theorem RecallsUpTo.reach_subset {n : Nat} {known s out : Set Nat}
    (h : RecallsUpTo r Recalls n m known s out) (hknown : reach r known ⊆ known ∪ s) :
    reach (Rounds r 0 (some n)) (known ∪ s) ⊆ known ∪ out := by
  induction n generalizing m known s out with
  | zero =>
      rintro j ⟨i, hi, hrounds⟩
      obtain rfl := rounds_zero_some_zero.1 hrounds
      rwa [show out = s from h]
  | succ n ih =>
      obtain ⟨-, next, later, -, hreach, hlater, rfl⟩ := h
      -- What is known before the next round is known or led to in one step from this one.
      have hclosed : reach r (known ∪ s) ⊆ known ∪ s ∪ next := by
        rw [reach_union]
        exact Set.union_subset (hknown.trans Set.subset_union_left) hreach
      rw [← Set.union_assoc]
      rintro j ⟨i, hi, hrounds⟩
      rcases rounds_zero_some_succ.1 hrounds with rfl | ⟨k, hr, hrounds⟩
      · exact .inl hi
      · exact ih hlater hclosed ⟨k, hclosed ⟨i, hi, hr⟩, hrounds⟩

theorem RecallsUpTo.subset_reach {n : Nat} {known s out : Set Nat}
    (h : RecallsUpTo r Recalls n m known s out) : out ⊆ reach (Rounds r 0 (some n)) s := by
  induction n generalizing m known s out with
  | zero =>
      intro j hj
      rw [show out = s from h] at hj
      exact ⟨j, hj, rounds_zero_some_zero.2 rfl⟩
  | succ n ih =>
      obtain ⟨-, next, later, hnext, -, hlater, rfl⟩ := h
      rintro j (hj | hj)
      · exact ⟨j, hj, rounds_zero_some_succ.2 (.inl rfl)⟩
      · obtain ⟨k, hk, hrounds⟩ := ih hlater hj
        obtain ⟨i, hi, hr⟩ := hnext hk
        exact ⟨i, hi, rounds_zero_some_succ.2 (.inr ⟨k, hr, hrounds⟩)⟩

theorem RecallsUpTo.eq_reach {n : Nat} {out : Set Nat}
    (h : RecallsUpTo r Recalls n m ∅ s out) : out = reach (Rounds r 0 (some n)) s := by
  apply Set.Subset.antisymm h.subset_reach
  simpa using h.reach_subset (by simp)

theorem recallsUpTo_fresh (hfresh : Recalls .fresh ∅) (n : Nat) (known : Set Nat) :
    RecallsUpTo r Recalls n .fresh known ∅ ∅ := by
  induction n generalizing known with
  | zero => rfl
  | succ n ih => exact ⟨hfresh, ∅, ∅, by simp, by simp, ih _, by simp⟩

/-- What goes on to the next round is led to by the places of this one. -/
theorem Fed.next_subset {next : Set Nat} (h : Fed t r Recalls s xs out) (hnext : next ⊆ reach r s)
    (found : Nat) : next ∪ indices (unseen found out.1).1 ⊆ reach r (s ∪ indices xs) :=
  Set.union_subset (hnext.trans (reach_mono r Set.subset_union_left))
    ((indices_mono (unseen_subset found out.1)).trans h.subset)

/-- Nothing is lost between two rounds: what is left out has been found by this round or by
fewer ones. -/
theorem Fed.reach_subset {found : Nat} {known known' next : Set Nat}
    (h : Fed t r Recalls s xs out) (hreach : reach r s ⊆ known ∪ s ∪ next)
    (hknown : known ⊆ known') (hfound : bits found ⊆ known' ∪ (s ∪ indices xs)) :
    reach r (s ∪ indices xs) ⊆
      known' ∪ (s ∪ indices xs) ∪ (next ∪ indices (unseen found out.1).1) := by
  have hearlier : known ∪ s ⊆ known' ∪ (s ∪ indices xs) :=
    Set.union_subset_union hknown Set.subset_union_left
  rw [← h.leads_all]
  apply Set.union_subset
  · exact hreach.trans (Set.union_subset_union hearlier Set.subset_union_left)
  · exact (indices_subset_unseen found out.1).trans
      (Set.union_subset_union hfound Set.subset_union_right)

/-- Feeding rounds that may end early.  The places of `found` may be left out,
as they have come out of fewer rounds. -/
theorem recallsUpTo_upTo (hf : Traces t r Recalls f) {n found : Nat} {known known' out : Set Nat}
    (hm : RecallsUpTo r Recalls n m known s out) (hxs : AllOf t xs) (hknown : known ⊆ known')
    (hfound : bits found ⊆ known' ∪ (s ∪ indices xs)) :
    AllOf t (f.upTo n found m xs).1 ∧
      RecallsUpTo r Recalls n (f.upTo n found m xs).2 known' (s ∪ indices xs)
        (out ∪ indices (f.upTo n found m xs).1) := by
  induction n generalizing m xs found known known' s out with
  | zero =>
      rw [show out = s from hm]
      exact ⟨hxs, rfl⟩
  | succ n ih =>
      rw [Feed.upTo]
      split
      case isTrue hempty =>
        rw [List.isEmpty_iff] at hempty
        rw [hempty, indices_nil, Set.union_empty, Set.union_empty]
        exact ⟨allOf_nil, hm.mono hknown⟩
      case isFalse =>
        obtain ⟨hleft, next, later, hnext, hreach, hlater, rfl⟩ := hm
        have hfed := hf.fed hleft hxs
        have hgoes := hfed.next_subset hnext found
        have hkept := hfed.reach_subset hreach hknown hfound
        have hearlier : known ∪ s ⊆ known' ∪ (s ∪ indices xs) :=
          Set.union_subset_union hknown Set.subset_union_left
        -- What has been found now is what had been found, and what goes on to the next round.
        have hfound' : bits (unseen found (f m.left xs).1).2 ⊆ known' ∪ (s ∪ indices xs) ∪
            (next ∪ indices (unseen found (f m.left xs).1).1) := by
          rw [bits_unseen]
          exact (Set.union_subset Set.subset_union_left (indices_subset_unseen found _)).trans
            (Set.union_subset_union hfound Set.subset_union_right)
        have hnew : AllOf t (unseen found (f m.left xs).1).1 :=
          hfed.allOf.mono (unseen_subset found _)
        obtain ⟨hall, hrest⟩ := ih hlater hnew hearlier hfound'
        have hround := RecallsUpTo.succ hfed.recalls hgoes hkept hrest
        rw [Set.union_union_union_comm, ← indices_append] at hround
        exact ⟨hxs.append hall, hround⟩

theorem Follows.upTo (hf : Follows t r f) (n : Nat) :
    Follows t (Rounds r 0 (some n)) fun m xs =>
      f.upTo n (unseen 0 xs).2 m (unseen 0 xs).1 := by
  obtain ⟨Recalls, hf⟩ := hf
  refine ⟨fun m s => ∃ out, RecallsUpTo r Recalls n m ∅ s out,
    ⟨∅, recallsUpTo_fresh hf.fresh n ∅⟩, ?_⟩
  rintro m s xs ⟨out, hm⟩ hxs
  have hindices : indices (unseen 0 xs).1 = indices xs := by
    rw [indices_unseen, bits_zero, Set.sdiff_empty]
  have hbits : bits (unseen 0 xs).2 = indices xs := by
    rw [bits_unseen, bits_zero, Set.empty_union]
  obtain ⟨hall, hrest⟩ := recallsUpTo_upTo hf hm (hxs.mono (unseen_subset 0 xs))
    (Set.Subset.refl ∅) (by rw [hindices, hbits, Set.empty_union]; exact Set.subset_union_right)
  rw [hindices] at hrest
  refine ⟨hall, ⟨_, hrest⟩, ?_⟩
  rw [← hm.eq_reach, hrest.eq_reach, reach_union, ← hm.eq_reach]

end

end Feed

end FormRules
