import FormRules.Proofs.Pattern.Loop

/-!
# What matching finds

Matching by sets of places finds what the patterns mean: a pattern leads from a
place exactly to those that it spans the text to.  The remembering, the rounds
that are not made and the fuel of the loops change nothing.
-/

namespace FormRules.Pattern

open Place Feed Relation

section

variable {t : List Char}

theorem follows_empty : Follows t (empty.Spans t) (empty.feed (t.length + 1)) := by
  refine follows_of_forget fun m xs hxs => ⟨hxs, ?_⟩
  change indices xs = reach Eq (indices xs)
  rw [reach_eq]

theorem follows_one (s : CharSet) :
    Follows t ((one s).Spans t) ((one s).feed (t.length + 1)) := by
  refine follows_of_forget fun m xs hxs => ⟨?_, ?_⟩
  · intro y hy
    obtain ⟨x, hx, hnext⟩ := List.mem_filterMap.1 hy
    exact ((next?_eq_some_iff (hxs x hx)).1 hnext).1
  · ext j
    constructor
    · rintro ⟨y, hy, rfl⟩
      obtain ⟨x, hx, hnext⟩ := List.mem_filterMap.1 hy
      obtain ⟨-, hindex, hc⟩ := (next?_eq_some_iff (hxs x hx)).1 hnext
      exact ⟨x.index, ⟨x, hx, rfl⟩, hindex, hc⟩
    · rintro ⟨_, ⟨x, hx, rfl⟩, rfl, c, hc, hmem⟩
      have hrest := (hxs x hx).head?_rest
      rw [hc] at hrest
      obtain ⟨rest, hrest⟩ := List.head?_eq_some_iff.1 hrest
      have hnext : x.next? s = some ⟨x.index + 1, some c, rest⟩ := by
        simp only [next?, hrest, if_pos hmem]
      exact ⟨_, List.mem_filterMap.2 ⟨x, hx, hnext⟩, rfl⟩

theorem follows_look (a : Anchor) :
    Follows t ((look a).Spans t) ((look a).feed (t.length + 1)) := by
  refine follows_of_forget fun m xs hxs => ⟨hxs.mono (List.filter_subset_self _), ?_⟩
  ext j
  constructor
  · rintro ⟨y, hy, rfl⟩
    obtain ⟨hy, hholds⟩ := List.mem_filter.1 hy
    rw [satisfies_eq (hxs y hy)] at hholds
    exact ⟨y.index, ⟨y, hy, rfl⟩, rfl, hholds⟩
  · rintro ⟨_, ⟨x, hx, rfl⟩, rfl, hholds⟩
    rw [← satisfies_eq (hxs x hx)] at hholds
    exact ⟨x, List.mem_filter.2 ⟨hx, hholds⟩, rfl⟩

/-- A repetition makes the rounds that are needed, and then as many more as there
can be. -/
theorem follows_iter {p : Pattern} (hp : Follows t (p.Spans t) (p.feed (t.length + 1)))
    (min : Nat) (max : Option Nat) :
    Follows t ((iter p min max).Spans t) ((iter p min max).feed (t.length + 1)) := by
  rw [spans_iter]
  by_cases hmax : max.any (· < min) = true
  · -- The bounds leave no number of rounds.
    have hnone : ∀ s, reach (Rounds (p.Spans t) min max) s = ∅ := by
      intro s
      ext j
      simp only [mem_reach, Set.mem_empty_iff_false, iff_false]
      rintro ⟨i, -, n, hn, hle, -⟩
      obtain ⟨m, rfl, hm⟩ := (Option.any_eq_true _ _).1 hmax
      have hlt : m < min := by simpa using hm
      have := hle m rfl
      omega
    refine follows_of_forget fun m xs _ => ?_
    rw [feed, if_pos hmax, hnone, indices_nil]
    exact ⟨allOf_nil, rfl⟩
  · have hle : ∀ m, max = some m → min ≤ m := by
      rintro m rfl
      simpa using hmax
    rw [← rounds_roundsNeeded p t hle]
    rcases hneeded : p.roundsNeeded min max with ⟨n, more⟩
    cases more with
    | none =>
        cases n with
        | zero =>
            have hstay := hp.repeated.orStay
            simp only [Option.map_none, ← rounds_zero_none] at hstay ⊢
            refine hstay.congr fun m xs => ?_
            rw [feed, if_neg hmax, hneeded]
        | succ n =>
            simp only [Option.map_none]
            rw [rounds_add_none]
            refine ((hp.times n).comp hp.repeated).congr fun m xs => ?_
            rw [feed, if_neg hmax, hneeded]
    | some more =>
        simp only [Option.map_some]
        rw [rounds_add_some]
        refine ((hp.times n).comp (hp.upTo more)).congr fun m xs => ?_
        rw [feed, if_neg hmax, hneeded]
        cases n <;> rfl

/-- A pattern leads where it spans the text to. -/
theorem follows_spans (p : Pattern) (t : List Char) :
    Follows t (p.Spans t) (p.feed (t.length + 1)) := by
  induction p with
  | empty => exact follows_empty
  | one s => exact follows_one s
  | look a => exact follows_look a
  | seq p q ihp ihq => exact ihp.comp_isEmpty ihq
  | alt p q ihp ihq => exact ihp.alt ihq
  | iter p min max ih => exact follows_iter ih min max

/-- **Matching finds what patterns mean.** -/
theorem occurs_eq_true_iff (p : Pattern) (t : List Char) : p.occurs t = true ↔ p.Occurs t := by
  obtain ⟨Recalls, htraces⟩ := follows_spans p t
  have hleads := (htraces.fed htraces.fresh (allOf_all t)).leads
  rw [reach_empty, Set.empty_union, Set.empty_union, indices_all] at hleads
  rw [occurs, Bool.not_eq_true', ← Bool.not_eq_true, List.isEmpty_iff,
    ← indices_eq_empty_iff, hleads, ← Ne, ← Set.nonempty_iff_ne_empty]
  constructor
  · rintro ⟨j, i, hi, hspans⟩
    exact ⟨i, j, hi, hspans⟩
  · rintro ⟨i, j, hi, hspans⟩
    exact ⟨j, i, hi, hspans⟩

end

end FormRules.Pattern
