import FormRules.Message
import FormRules.Proofs.Entries
import Mathlib.Data.Finset.Card

/-!
# Writing to message tables

A table is known by the text that it gives to each code.  Setting a text changes
what one code is given, so after several pairs are set a code has the text of the
last pair for it.  Extending a table by another one sets the pairs of the other,
and puts its texts in front; no extension takes the text of a code away.  A table
has as many texts as there are codes with one, and two tables are the same when
they give each code the same.
-/

namespace FormRules.MessageTable

variable {code key : Code} {text : String}

/-- A code that has a text is given the new one. -/
theorem lookup_replace_self {entries : List (Code × String)}
    (h : code ∈ entries.map Prod.fst) : (replace code text entries).lookup code = some text := by
  induction entries with
  | nil => contradiction
  | cons entry entries ih =>
      obtain ⟨first, old⟩ := entry
      unfold replace at ih ⊢
      rw [List.map_cons]
      by_cases hfirst : first = code
      · rw [if_pos hfirst, List.lookup_cons, hfirst, beq_self_eq_true]
      · have hrest : code ∈ entries.map Prod.fst :=
          (List.mem_cons.1 h).resolve_left (Ne.symm hfirst)
        rw [if_neg hfirst, List.lookup_cons, beq_false_of_ne (Ne.symm hfirst)]
        exact ih hrest

/-- No other code is affected. -/
theorem lookup_replace_of_ne (h : key ≠ code) (entries : List (Code × String)) :
    (replace code text entries).lookup key = entries.lookup key := by
  induction entries with
  | nil => rfl
  | cons entry entries ih =>
      obtain ⟨first, old⟩ := entry
      unfold replace at ih ⊢
      rw [List.map_cons]
      by_cases hfirst : first = code
      · have hkey : (key == first) = false := beq_false_of_ne (hfirst ▸ h)
        rw [if_pos hfirst, List.lookup_cons, List.lookup_cons, hkey, ih]
      · rw [if_neg hfirst, List.lookup_cons, List.lookup_cons, ih]

/-- As every code occurs once, its entry is also the last one for it. -/
theorem lastOf_entries (t : MessageTable) (key : Code) : lastOf t.entries key = t.get? key :=
  (lookup_eq_lastOf t.nodup).symm

/-- The entry for a code is its text. -/
theorem mem_entries_iff {t : MessageTable} : (key, text) ∈ t.entries ↔ t.get? key = some text := by
  rw [← lastOf_entries, lastOf_eq_some_iff_mem t.nodup]

theorem get?_eq_none_iff {t : MessageTable} :
    t.get? code = none ↔ code ∉ t.entries.map Prod.fst := by
  rw [← lastOf_entries, lastOf_eq_none_iff]

/-- Setting a text is seen at one code. -/
theorem get?_set (t : MessageTable) (code key : Code) (text : String) :
    (t.set code text).get? key = if key = code then some text else t.get? key := by
  unfold set
  split
  · rename_i hcode
    by_cases hkey : key = code
    · rw [if_pos hkey, hkey]
      exact lookup_replace_self hcode
    · rw [if_neg hkey]
      exact lookup_replace_of_ne hkey t.entries
  · rename_i hcode
    have hnone : t.get? code = none := get?_eq_none_iff.2 hcode
    change (t.entries ++ [(code, text)]).lookup key = _
    rw [List.lookup_append, ← get?]
    by_cases hkey : key = code
    · rw [if_pos hkey, hkey, hnone, Option.none_or]
      simp
    · rw [if_neg hkey]
      simp [List.lookup_cons, beq_false_of_ne hkey]

/-- After some pairs are set a code has the text of the last pair for it, or else
the text that it had before. -/
theorem get?_foldl_set (t : MessageTable) (pairs : List (Code × String)) (key : Code) :
    (pairs.foldl (fun t pair => t.set pair.1 pair.2) t).get? key =
      (lastOf pairs key).or (t.get? key) := by
  induction pairs generalizing t with
  | nil => rfl
  | cons pair pairs ih =>
      rw [List.foldl_cons, ih, get?_set, lastOf_cons, Option.or_assoc]
      by_cases hkey : key = pair.1
      · rw [if_pos hkey, if_pos hkey.symm, Option.some_or]
      · rw [if_neg hkey, if_neg (Ne.symm hkey), Option.none_or]

/-- A code is given the text of the last pair for it. -/
theorem get?_ofPairs (pairs : List (Code × String)) (key : Code) :
    (ofPairs pairs).get? key = lastOf pairs key := by
  rw [ofPairs, get?_foldl_set, get?_empty, Option.or_none]

/-- A code that an extension has a text for is given that text, and any other
one keeps its own. -/
theorem get?_extend (t other : MessageTable) (key : Code) :
    (t.extend other).get? key = (other.get? key).or (t.get? key) := by
  rw [extend, get?_foldl_set, lastOf_entries]

/-- After several extensions a code has the text of the last one that has a
text for it, or else the text that it had before them. -/
theorem get?_foldl_extend (t : MessageTable) (others : List MessageTable) (key : Code) :
    (others.foldl extend t).get? key =
      (others.reverse.findSome? fun other => other.get? key).or (t.get? key) := by
  induction others generalizing t with
  | nil => rfl
  | cons other others ih =>
      rw [List.foldl_cons, ih, get?_extend, List.reverse_cons, List.findSome?_append,
        Option.or_assoc]
      cases hother : other.get? key <;> simp [hother]

/-- An extension takes no text away. -/
theorem isSome_get?_extend {t : MessageTable} (h : (t.get? key).isSome = true)
    (other : MessageTable) : ((t.extend other).get? key).isSome = true := by
  rw [get?_extend, Option.isSome_or, h, Bool.or_true]

/-- A code that has a text is not shown by the fallback. -/
theorem resolve_of_isSome {t : MessageTable} (h : (t.get? code).isSome = true)
    (overrides : Option MessageTable) :
    (override? overrides code).or (t.get? code) = some (t.resolve overrides code) := by
  obtain ⟨text, htext⟩ := Option.isSome_iff_exists.1 h
  unfold resolve
  rw [htext]
  cases override? overrides code <;> rfl

/-! ### Sizes -/

/-- The codes that have a text. -/
def codes (t : MessageTable) : Finset Code := (t.entries.map Prod.fst).toFinset

theorem mem_codes_iff {t : MessageTable} : code ∈ t.codes ↔ t.get? code ≠ none := by
  rw [codes, List.mem_toFinset, ne_eq, get?_eq_none_iff, not_not]

theorem size_eq_card (t : MessageTable) : t.size = t.codes.card := by
  rw [codes, List.toFinset_card_of_nodup t.nodup, List.length_map, size]

/-- A table of pairs has as many texts as there are different codes in the
pairs. -/
theorem size_ofPairs (pairs : List (Code × String)) :
    (ofPairs pairs).size = (pairs.map Prod.fst).toFinset.card := by
  have hcodes : (ofPairs pairs).codes = (pairs.map Prod.fst).toFinset := by
    ext code
    rw [mem_codes_iff, get?_ofPairs, ne_eq, lastOf_eq_none_iff, not_not, List.mem_toFinset]
  rw [size_eq_card, hcodes]

/-! ### Equality -/

/-- Two tables are the same when they give each code the same. -/
theorem beq_iff {a b : MessageTable} : (a == b) = true ↔ ∀ code, a.get? code = b.get? code := by
  change (a.size == b.size && a.entries.all fun entry => b.get? entry.1 == some entry.2) = true ↔ _
  simp only [Bool.and_eq_true, beq_iff_eq, List.all_eq_true, Prod.forall, mem_entries_iff]
  constructor
  · rintro ⟨hsize, hgiven⟩ code
    have hsubset : a.codes ⊆ b.codes := by
      intro code hcode
      obtain ⟨text, htext⟩ := Option.ne_none_iff_exists'.1 (mem_codes_iff.1 hcode)
      exact mem_codes_iff.2 (by simp [hgiven code text htext])
    -- The first table has no fewer codes, so the second one has no code besides.
    have hcodes : a.codes = b.codes := by
      apply Finset.eq_of_subset_of_card_le hsubset
      rw [← size_eq_card, ← size_eq_card, hsize]
    cases hget : a.get? code with
    | some text => exact (hgiven code text hget).symm
    | none =>
        have hnotMem : code ∉ b.codes := by
          rw [← hcodes, mem_codes_iff]
          exact not_not.2 hget
        exact (not_not.1 (mt mem_codes_iff.2 hnotMem)).symm
  · intro hsame
    have hcodes : a.codes = b.codes := by
      ext code
      rw [mem_codes_iff, mem_codes_iff, hsame code]
    refine ⟨by rw [size_eq_card, size_eq_card, hcodes], ?_⟩
    intro code text hget
    rw [← hsame code, hget]

/-! ### A table as pairs -/

theorem ext {a b : MessageTable} (h : a.entries = b.entries) : a = b := by
  cases a
  cases b
  simp_all

/-- A code without a text gets its entry at the end. -/
theorem entries_set_of_notMem {t : MessageTable} (h : code ∉ t.entries.map Prod.fst) :
    (t.set code text).entries = t.entries ++ [(code, text)] := by
  rw [set, dif_neg h]

/-- Pairs with codes that are all new get their entries at the end. -/
theorem entries_foldl_set {pairs : List (Code × String)} (t : MessageTable)
    (h : ((t.entries ++ pairs).map Prod.fst).Nodup) :
    (pairs.foldl (fun t pair => t.set pair.1 pair.2) t).entries = t.entries ++ pairs := by
  induction pairs generalizing t with
  | nil => simp
  | cons pair pairs ih =>
      have hpair : pair.1 ∉ t.entries.map Prod.fst := by
        rw [List.map_append, List.nodup_append] at h
        exact fun hmem => h.2.2 _ hmem pair.1 (by simp) rfl
      have hset : (t.set pair.1 pair.2).entries = t.entries ++ [pair] := entries_set_of_notMem hpair
      rw [List.foldl_cons, ih _ (by rw [hset, List.append_assoc]; exact h), hset,
        List.append_assoc]
      rfl

/-- A table is the table of its entries. -/
theorem ofPairs_entries (t : MessageTable) : ofPairs t.entries = t :=
  ext (entries_foldl_set empty t.nodup)

end FormRules.MessageTable
