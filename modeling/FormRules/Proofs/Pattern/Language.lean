import FormRules.Pattern.Basic
import Mathlib.Computability.Language

/-!
# The language of a pattern

What a pattern matches is said of two places in a text.  A pattern that asks for
characters only, and not for places, spans the text between two places exactly
when that part of the text is a word of its language.  A pattern between the two
anchors of a text has to span all of it.
-/

namespace FormRules.Pattern

/-- Does the pattern ask for characters alone? -/
def IsLookFree : Pattern → Prop
  | empty | one _ => True
  | look _ => False
  | seq p q | alt p q => p.IsLookFree ∧ q.IsLookFree
  | iter p _ _ => p.IsLookFree

/-- The words that a pattern matches, if it asks for characters alone. -/
def language : Pattern → Language Char
  | empty => 1
  | one s => {w | ∃ c, w = [c] ∧ s.mem c = true}
  | look _ => 0
  | seq p q => p.language * q.language
  | alt p q => p.language + q.language
  | iter p min max => {w | ∃ n, min ≤ n ∧ (∀ m, max = some m → n ≤ m) ∧ w ∈ p.language ^ n}

section

variable {p q : Pattern} {ps qs : List Pattern} {t u v w : List Char} {s : CharSet} {i j n : Nat}
  {min : Nat} {max : Option Nat}

/-! ### Words -/

theorem mem_language_one : w ∈ (one s).language ↔ ∃ c, w = [c] ∧ s.mem c = true := Iff.rfl

theorem mem_language_seq :
    w ∈ (seq p q).language ↔ ∃ u v, w = u ++ v ∧ u ∈ p.language ∧ v ∈ q.language := by
  constructor
  · rintro ⟨u, hu, v, hv, rfl⟩
    exact ⟨u, v, rfl, hu, hv⟩
  · rintro ⟨u, v, rfl, hu, hv⟩
    exact ⟨u, hu, v, hv, rfl⟩

/-- A word of a repetition is made of words of what is repeated. -/
theorem mem_language_iter :
    w ∈ (iter p min max).language ↔ ∃ ws : List (List Char), w = ws.flatten ∧ min ≤ ws.length ∧
      (∀ m, max = some m → ws.length ≤ m) ∧ ∀ u ∈ ws, u ∈ p.language := by
  constructor
  · rintro ⟨n, hmin, hmax, hw⟩
    obtain ⟨ws, rfl, rfl, hws⟩ := Language.mem_pow.1 hw
    exact ⟨ws, rfl, hmin, hmax, hws⟩
  · rintro ⟨ws, rfl, hmin, hmax, hws⟩
    exact ⟨ws.length, hmin, hmax, Language.mem_pow.2 ⟨ws, rfl, rfl, hws⟩⟩

theorem mem_language_many : w ∈ (many p).language ↔
    ∃ ws : List (List Char), w = ws.flatten ∧ ∀ u ∈ ws, u ∈ p.language := by
  simp [many, mem_language_iter]

theorem mem_language_many1 : w ∈ (many1 p).language ↔
    ∃ ws : List (List Char), w = ws.flatten ∧ ws ≠ [] ∧ ∀ u ∈ ws, u ∈ p.language := by
  simp [many1, mem_language_iter, ← Nat.pos_iff_ne_zero, Nat.lt_iff_add_one_le,
    ← List.length_eq_zero_iff]

theorem mem_language_optional : w ∈ (optional p).language ↔ w = [] ∨ w ∈ p.language := by
  rw [optional, mem_language_iter]
  constructor
  · rintro ⟨ws, rfl, -, hmax, hws⟩
    match ws with
    | [] => exact .inl rfl
    | [u] => exact .inr (by simpa using hws u)
    | _ :: _ :: _ => simpa using hmax 1 rfl
  · rintro (rfl | hw)
    · exact ⟨[], rfl, by simp, by simp, by simp⟩
    · exact ⟨[w], by simp, by simp, by simp, by simpa using hw⟩

theorem flatten_map_singleton (w : List Char) : (w.map fun c => [c]).flatten = w := by
  rw [← List.flatMap_def, List.flatMap_singleton']

/-- A repetition of single characters is a word over their set. -/
theorem mem_language_iter_one : w ∈ (iter (one s) min max).language ↔
    (∀ c ∈ w, s.mem c = true) ∧ min ≤ w.length ∧ ∀ m, max = some m → w.length ≤ m := by
  rw [mem_language_iter]
  constructor
  · rintro ⟨ws, rfl, hmin, hmax, hws⟩
    have hlen : ws.flatten.length = ws.length := by
      have hone : ∀ u ∈ ws, u.length = 1 := by
        intro u hu
        obtain ⟨c, rfl, -⟩ := hws u hu
        rfl
      rw [List.length_flatten, List.map_congr_left hone, List.map_const', List.sum_replicate_nat,
        Nat.mul_one]
    refine ⟨?_, hlen ▸ hmin, fun m hm => hlen ▸ hmax m hm⟩
    intro c hc
    obtain ⟨u, hu, hcu⟩ := List.mem_flatten.1 hc
    obtain ⟨d, rfl, hd⟩ := hws u hu
    rwa [List.mem_singleton.1 hcu]
  · rintro ⟨hall, hmin, hmax⟩
    refine ⟨w.map fun c => [c], (flatten_map_singleton w).symm, by simpa using hmin,
      by simpa using hmax, ?_⟩
    intro u hu
    obtain ⟨c, hc, rfl⟩ := List.mem_map.1 hu
    exact ⟨c, rfl, hall c hc⟩

theorem mem_language_many1_one :
    w ∈ (many1 (one s)).language ↔ w ≠ [] ∧ ∀ c ∈ w, s.mem c = true := by
  rw [many1, mem_language_iter_one]
  simp only [reduceCtorEq, false_implies, implies_true, and_true]
  rw [and_comm, Nat.one_le_iff_ne_zero, Ne, List.length_eq_zero_iff]

/-! ### Spans -/

/-- Steps that each span a word span the words in a row. -/
theorem steps_iff {l : Language Char}
    (h : ∀ i j, p.Spans t i j ↔ ∃ w v, t.drop i = w ++ v ∧ j = i + w.length ∧ w ∈ l) :
    Steps (p.Spans t) n i j ↔ ∃ w v, t.drop i = w ++ v ∧ j = i + w.length ∧ w ∈ l ^ n := by
  induction n generalizing i with
  | zero =>
      constructor
      · rintro rfl
        exact ⟨[], t.drop i, rfl, rfl, rfl⟩
      · rintro ⟨w, v, -, rfl, rfl⟩
        rfl
  | succ n ih =>
      rw [pow_succ']
      constructor
      · rintro ⟨k, hspans, hsteps⟩
        obtain ⟨w, v, hdrop, rfl, hw⟩ := (h i k).1 hspans
        obtain ⟨w', v', hdrop', rfl, hw'⟩ := ih.1 hsteps
        rw [← List.drop_drop, hdrop, List.drop_left] at hdrop'
        refine ⟨w ++ w', v', by rw [hdrop, hdrop', List.append_assoc], ?_, ⟨w, hw, w', hw', rfl⟩⟩
        rw [List.length_append, Nat.add_assoc]
      · rintro ⟨_, v, hdrop, rfl, w, hw, w', hw', rfl⟩
        have hfirst : t.drop i = w ++ (w' ++ v) := by simpa using hdrop
        refine ⟨i + w.length, (h _ _).2 ⟨w, w' ++ v, hfirst, rfl, hw⟩, ih.2 ⟨w', v, ?_, ?_, hw'⟩⟩
        · rw [← List.drop_drop, hfirst, List.drop_left]
        · simp [Nat.add_assoc]

/-- A pattern without conditions on places spans the words of its language. -/
theorem spans_iff_mem_language (h : p.IsLookFree) :
    p.Spans t i j ↔ ∃ w v, t.drop i = w ++ v ∧ j = i + w.length ∧ w ∈ p.language := by
  induction p generalizing i j with
  | empty =>
      constructor
      · rintro rfl
        exact ⟨[], t.drop i, rfl, rfl, rfl⟩
      · rintro ⟨w, v, -, rfl, rfl⟩
        rfl
  | one s =>
      constructor
      · rintro ⟨rfl, c, hc, hmem⟩
        rw [← List.head?_drop] at hc
        obtain ⟨v, hv⟩ := List.head?_eq_some_iff.1 hc
        exact ⟨[c], v, hv, rfl, c, rfl, hmem⟩
      · rintro ⟨_, v, hdrop, rfl, c, rfl, hmem⟩
        refine ⟨rfl, c, ?_, hmem⟩
        rw [← List.head?_drop, hdrop]
        rfl
  | look a => exact h.elim
  | seq p q ihp ihq =>
      constructor
      · rintro ⟨k, hp, hq⟩
        obtain ⟨w, v, hdrop, rfl, hw⟩ := (ihp h.1).1 hp
        obtain ⟨w', v', hdrop', rfl, hw'⟩ := (ihq h.2).1 hq
        rw [← List.drop_drop, hdrop, List.drop_left] at hdrop'
        refine ⟨w ++ w', v', by rw [hdrop, hdrop', List.append_assoc], ?_, ⟨w, hw, w', hw', rfl⟩⟩
        rw [List.length_append, Nat.add_assoc]
      · rintro ⟨_, v, hdrop, rfl, w, hw, w', hw', rfl⟩
        have hfirst : t.drop i = w ++ (w' ++ v) := by simpa using hdrop
        refine ⟨i + w.length, (ihp h.1).2 ⟨w, w' ++ v, hfirst, rfl, hw⟩,
          (ihq h.2).2 ⟨w', v, ?_, ?_, hw'⟩⟩
        · rw [← List.drop_drop, hfirst, List.drop_left]
        · simp [Nat.add_assoc]
  | alt p q ihp ihq =>
      change p.Spans t i j ∨ q.Spans t i j ↔ _
      rw [ihp h.1, ihq h.2]
      constructor
      · rintro (⟨w, v, hdrop, hj, hw⟩ | ⟨w, v, hdrop, hj, hw⟩)
        · exact ⟨w, v, hdrop, hj, .inl hw⟩
        · exact ⟨w, v, hdrop, hj, .inr hw⟩
      · rintro ⟨w, v, hdrop, hj, hw | hw⟩
        · exact .inl ⟨w, v, hdrop, hj, hw⟩
        · exact .inr ⟨w, v, hdrop, hj, hw⟩
  | iter p min max ih =>
      have hsteps : ∀ n i j, Steps (p.Spans t) n i j ↔ _ := fun n i j =>
        steps_iff fun i j => ih h
      constructor
      · rintro ⟨n, hmin, hmax, hspans⟩
        obtain ⟨w, v, hdrop, hj, hw⟩ := (hsteps n i j).1 hspans
        exact ⟨w, v, hdrop, hj, n, hmin, hmax, hw⟩
      · rintro ⟨w, v, hdrop, hj, n, hmin, hmax, hw⟩
        exact ⟨n, hmin, hmax, (hsteps n i j).2 ⟨w, v, hdrop, hj, hw⟩⟩

/-- A pattern without conditions on places spans a whole text that is a word of
its language. -/
theorem spans_whole_iff (h : p.IsLookFree) : p.Spans t 0 t.length ↔ t ∈ p.language := by
  rw [spans_iff_mem_language h]
  constructor
  · rintro ⟨w, v, hdrop, hlen, hw⟩
    obtain rfl : t = w ++ v := by simpa using hdrop
    have hv : v = [] := by
      rw [← List.length_eq_zero_iff]
      simpa using hlen
    rwa [hv, List.append_nil]
  · intro ht
    exact ⟨t, [], by simp, by simp, ht⟩

/-- A pattern spans the text to no place behind its end. -/
theorem le_length_of_spans (h : p.Spans t i j) (hi : i ≤ t.length) : j ≤ t.length := by
  induction p generalizing i j with
  | empty => exact (show i = j from h) ▸ hi
  | one s =>
      obtain ⟨rfl, c, hc, -⟩ := h
      exact (List.getElem?_eq_some_iff.1 hc).1
  | look a => exact h.1 ▸ hi
  | seq p q ihp ihq =>
      obtain ⟨k, hp, hq⟩ := h
      exact ihq hq (ihp hp hi)
  | alt p q ihp ihq =>
      rcases h with h | h
      · exact ihp h hi
      · exact ihq h hi
  | iter p min max ih =>
      obtain ⟨n, -, -, hsteps⟩ := h
      induction n generalizing i with
      | zero => exact (show i = j from hsteps) ▸ hi
      | succ n ihn =>
          obtain ⟨k, hspans, hsteps⟩ := hsteps
          exact ihn (ih hspans hi) hsteps

/-! ### Patterns in a row -/

theorem spans_seqAll_cons :
    (seqAll (p :: ps)).Spans t i j ↔ ∃ k, p.Spans t i k ∧ (seqAll ps).Spans t k j := by
  cases ps with
  | nil => simp [seqAll, Spans]
  | cons q ps => rfl

theorem spans_seqAll_append :
    (seqAll (ps ++ qs)).Spans t i j ↔ ∃ k, (seqAll ps).Spans t i k ∧ (seqAll qs).Spans t k j := by
  induction ps generalizing i with
  | nil => simp [seqAll, Spans]
  | cons p ps ih =>
      simp only [List.cons_append, spans_seqAll_cons, ih]
      constructor
      · rintro ⟨k, hp, l, hps, hqs⟩
        exact ⟨l, ⟨k, hp, hps⟩, hqs⟩
      · rintro ⟨l, ⟨k, hp, hps⟩, hqs⟩
        exact ⟨k, hp, l, hps, hqs⟩

theorem isLookFree_seqAll (h : ∀ p ∈ ps, p.IsLookFree) : (seqAll ps).IsLookFree := by
  induction ps with
  | nil => trivial
  | cons p ps ih =>
      have hp := h p (by simp)
      cases ps with
      | nil => exact hp
      | cons q ps => exact ⟨hp, ih fun p hp => h p (by simp [hp])⟩

theorem mem_language_seqAll_cons :
    w ∈ (seqAll (p :: ps)).language ↔
      ∃ u v, w = u ++ v ∧ u ∈ p.language ∧ v ∈ (seqAll ps).language := by
  cases ps with
  | nil =>
      change w ∈ p.language ↔ _
      constructor
      · intro hw
        exact ⟨w, [], by simp, hw, rfl⟩
      · rintro ⟨u, v, rfl, hu, rfl⟩
        simpa using hu
  | cons q ps => exact mem_language_seq

theorem mem_language_seqAll_nil : w ∈ (seqAll []).language ↔ w = [] := Iff.rfl

/-! ### Anchors -/

theorem spans_textStart (hi : i ≤ t.length) :
    (look .textStart).Spans t i j ↔ i = 0 ∧ j = 0 := by
  have hbefore : (before t i).isNone = true ↔ i = 0 := by
    rw [before]
    split
    case isTrue h => simp [h]
    case isFalse h =>
      have hlt : i - 1 < t.length := by omega
      simp [List.getElem?_eq_getElem hlt, h]
  change i = j ∧ (before t i).isNone = true ↔ _
  rw [hbefore]
  constructor
  · rintro ⟨rfl, rfl⟩
    exact ⟨rfl, rfl⟩
  · rintro ⟨rfl, rfl⟩
    exact ⟨rfl, rfl⟩

theorem spans_textEnd (hi : i ≤ t.length) :
    (look .textEnd).Spans t i j ↔ i = t.length ∧ j = t.length := by
  change i = j ∧ t[i]?.isNone = true ↔ _
  rw [Option.isNone_iff_eq_none, List.getElem?_eq_none_iff]
  omega

/-- A pattern behind the anchor of the start occurs at the start. -/
theorem occurs_textStart_iff (ps : List Pattern) :
    (seqAll (look .textStart :: ps)).Occurs t ↔ ∃ j, (seqAll ps).Spans t 0 j := by
  constructor
  · rintro ⟨i, j, hi, hspans⟩
    obtain ⟨k, hstart, hspans⟩ := spans_seqAll_cons.1 hspans
    obtain ⟨rfl, rfl⟩ := (spans_textStart hi).1 hstart
    exact ⟨j, hspans⟩
  · rintro ⟨j, hspans⟩
    have hstart := (spans_textStart (j := 0) (Nat.zero_le t.length)).2 ⟨rfl, rfl⟩
    exact ⟨0, j, Nat.zero_le _, spans_seqAll_cons.2 ⟨0, hstart, hspans⟩⟩

/-- A pattern between the two anchors of a text spans all of it. -/
theorem occurs_anchored_iff (ps : List Pattern) :
    (seqAll (look .textStart :: (ps ++ [look .textEnd]))).Occurs t ↔
      (seqAll ps).Spans t 0 t.length := by
  rw [occurs_textStart_iff]
  constructor
  · rintro ⟨j, hspans⟩
    obtain ⟨k, hps, hend⟩ := spans_seqAll_append.1 hspans
    have hk := le_length_of_spans hps (Nat.zero_le _)
    obtain ⟨rfl, -⟩ := (spans_textEnd hk).1 hend
    exact hps
  · intro hspans
    have hend := (spans_textEnd (j := t.length) (Nat.le_refl t.length)).2 ⟨rfl, rfl⟩
    exact ⟨t.length, spans_seqAll_append.2 ⟨t.length, hspans, hend⟩⟩

/-- Between the anchors, patterns that ask for characters alone occur in the words of
their language. -/
theorem occurs_anchored_iff_mem_language (h : ∀ p ∈ ps, p.IsLookFree) :
    (seqAll (look .textStart :: (ps ++ [look .textEnd]))).Occurs t ↔
      t ∈ (seqAll ps).language :=
  (occurs_anchored_iff ps).trans (spans_whole_iff (isLookFree_seqAll h))

end

end FormRules.Pattern
