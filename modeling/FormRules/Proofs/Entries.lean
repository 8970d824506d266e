import Mathlib.Data.List.Nodup

/-!
# The last entry for a key

A list of pairs is read as entries that were made one after the other, each under
a key, so of several entries for one key the last one counts.
-/

namespace FormRules

/-- The last entry for a key in a list of pairs. -/
def lastOf {β : Type} (pairs : List (String × β)) (key : String) : Option β :=
  (pairs.reverse.find? (·.1 == key)).map (·.2)

variable {β : Type} {pairs : List (String × β)} {key : String} {b : β}

theorem lastOf_cons (pair : String × β) (pairs : List (String × β)) (key : String) :
    lastOf (pair :: pairs) key =
      (lastOf pairs key).or (if pair.1 = key then some pair.2 else none) := by
  unfold lastOf
  rw [List.reverse_cons, List.find?_append, Option.map_or]
  by_cases h : pair.1 = key <;> simp [h]

/-- What is found for a key is there under the key. -/
theorem mem_of_lastOf_eq_some (h : lastOf pairs key = some b) : (key, b) ∈ pairs := by
  obtain ⟨found, hfind, rfl⟩ := Option.map_eq_some_iff.1 h
  have hkey : found.1 = key := by simpa using List.find?_some hfind
  have hmem : found ∈ pairs := List.mem_reverse.1 (List.mem_of_find?_eq_some hfind)
  rwa [← hkey]

/-- Nothing is found for the keys that have no entry. -/
theorem lastOf_eq_none_iff : lastOf pairs key = none ↔ key ∉ pairs.map Prod.fst := by
  rw [lastOf, Option.map_eq_none_iff, List.find?_eq_none]
  simp only [List.mem_reverse, beq_iff_eq, List.mem_map, not_exists, not_and]

/-- Leaving out entries for other keys changes nothing for a key. -/
theorem lastOf_filter {keep : String × β → Bool} (h : ∀ pair, pair.1 = key → keep pair = true) :
    lastOf (pairs.filter keep) key = lastOf pairs key := by
  induction pairs with
  | nil => rfl
  | cons pair pairs ih =>
      cases hkeep : keep pair with
      | true => rw [List.filter_cons_of_pos hkeep, lastOf_cons, lastOf_cons, ih]
      | false =>
          have hkey : pair.1 ≠ key := by
            intro hkey
            rw [h pair hkey] at hkeep
            contradiction
          rw [List.filter_cons_of_neg (by simp [hkeep]), ih, lastOf_cons, if_neg hkey,
            Option.or_none]

/-- In a list that has no key twice, each entry is the last one for its key. -/
theorem lastOf_eq_some_iff_mem (hnodup : (pairs.map Prod.fst).Nodup) :
    lastOf pairs key = some b ↔ (key, b) ∈ pairs := by
  constructor
  · exact mem_of_lastOf_eq_some
  · intro hmem
    cases hlast : lastOf pairs key with
    | none => exact absurd (List.mem_map_of_mem hmem) (lastOf_eq_none_iff.1 hlast)
    | some b' =>
        have hpair : (key, b') = (key, b) :=
          List.inj_on_of_nodup_map hnodup (mem_of_lastOf_eq_some hlast) hmem rfl
        rw [(Prod.mk.inj hpair).2]

/-- In such a list it does not matter from which end an entry is looked up. -/
theorem lookup_eq_lastOf (hnodup : (pairs.map Prod.fst).Nodup) :
    pairs.lookup key = lastOf pairs key := by
  induction pairs with
  | nil => rfl
  | cons pair pairs ih =>
      obtain ⟨first, b⟩ := pair
      obtain ⟨hfirst, hrest⟩ := List.nodup_cons.1 hnodup
      rw [List.lookup_cons, lastOf_cons, ih hrest]
      by_cases hkey : first = key
      · have hnone : lastOf pairs key = none := lastOf_eq_none_iff.2 (hkey ▸ hfirst)
        rw [if_pos hkey, hkey, beq_self_eq_true, hnone, Option.none_or]
      · rw [if_neg hkey, beq_false_of_ne (Ne.symm hkey), Option.or_none]

end FormRules
