import FormRules.Proofs.Afresh
import FormRules.Proofs.Failure
import Mathlib.Data.Finset.Card

/-!
# Histories of failure sets

A set of failures is changed by inserting codes, by clearing it and by collecting
codes anew.  What it holds is then what collecting all codes gives that have been
inserted since it was last cleared or collected: each of them once, in the order in
which they came first.
-/

namespace FormRules.FailureSet

/-- A change of a set of failures. -/
inductive Change where
  | insert (code : Code)
  | clear
  | collect (codes : List Code)

namespace Change

/-- Does the change forget what was there? -/
def forgets : Change → Bool
  | insert _ => false
  | clear => true
  | collect _ => true

/-- The codes that the change inserts, in their order. -/
def inserts : Change → List Code
  | insert code => [code]
  | clear => []
  | collect codes => codes

/-- The set after the change. -/
def apply (s : FailureSet) : Change → FailureSet
  | insert code => s.insert code
  | clear => .empty
  | collect codes => .ofList codes

end Change

/-- The set after some changes of the empty one. -/
def afterChanges (changes : List Change) : FailureSet := changes.foldl Change.apply .empty

/-- The codes that were inserted since the set was last cleared or collected; those
that were collected then are among them. -/
def insertedCodes (changes : List Change) : List Code :=
  sinceFresh Change.forgets Change.inserts changes

theorem afterChanges_concat (changes : List Change) (change : Change) :
    afterChanges (changes ++ [change]) = change.apply (afterChanges changes) := by
  rw [afterChanges, List.foldl_append]
  rfl

/-- Changes leave the set of the codes inserted. -/
theorem afterChanges_eq_ofList (changes : List Change) :
    afterChanges changes = ofList (insertedCodes changes) := by
  refine foldl_eq_made_sinceFresh ofList ?_ ?_ changes
  · intro s change h
    cases change with
    | insert code => contradiction
    | clear | collect codes => rfl
  · intro codes change h
    cases change with
    | insert code => exact (ofList_concat codes code).symm
    | clear | collect codes => contradiction

/-- Of two codes the one that came first stands first. -/
theorem pairwise_codes_ofList (codes : List Code) :
    (ofList codes).codes.Pairwise fun a b => codes.idxOf a < codes.idxOf b := by
  induction codes using List.reverseRecOn with
  | nil => exact .nil
  | append_singleton codes code ih =>
      have hkept : (ofList codes).codes.Pairwise fun a b =>
          (codes ++ [code]).idxOf a < (codes ++ [code]).idxOf b := by
        refine ih.imp_of_mem ?_
        intro a b ha hb hlt
        rwa [List.idxOf_append_of_mem (mem_ofList.1 ha), List.idxOf_append_of_mem (mem_ofList.1 hb)]
      rw [ofList_concat, codes_insert]
      split
      · exact hkept
      · next hnew =>
        rw [List.pairwise_append]
        refine ⟨hkept, List.pairwise_singleton _ _, ?_⟩
        -- The new code comes after all that were there.
        intro a ha b hb
        obtain rfl := List.mem_singleton.1 hb
        have hmem : a ∈ codes := mem_ofList.1 ha
        have hbefore : codes.idxOf a < codes.length := List.idxOf_lt_length_of_mem hmem
        rw [List.idxOf_append_of_mem hmem, List.idxOf_append_of_notMem (mt mem_ofList.2 hnew)]
        omega

/-- There are as many failures as different codes were collected. -/
theorem size_ofList (codes : List Code) : (ofList codes).size = codes.toFinset.card := by
  have hcodes : (ofList codes).codes.toFinset = codes.toFinset := by
    ext code
    rw [List.mem_toFinset, List.mem_toFinset, mem_ofList]
  rw [← hcodes, List.toFinset_card_of_nodup (ofList codes).nodup, size]

/-- Codes without repetition are collected as they are. -/
theorem codes_ofList_of_nodup {codes : List Code} (h : codes.Nodup) :
    (ofList codes).codes = codes := by
  induction codes using List.reverseRecOn with
  | nil => rfl
  | append_singleton codes code ih =>
      obtain ⟨hcodes, -, hdisjoint⟩ := List.nodup_append.1 h
      have hnew : code ∉ codes := fun hmem => hdisjoint code hmem code (by simp) rfl
      rw [ofList_concat, codes_insert, ih hcodes, if_neg hnew]

theorem ofList_toList (s : FailureSet) : ofList s.toList = s :=
  ext (codes_ofList_of_nodup s.nodup)

/-- A code is added exactly when it is not there. -/
theorem fst_tryInsert (s : FailureSet) (code : Code) :
    (s.tryInsert code).1 = !s.contains code := by
  unfold tryInsert contains
  split
  · next hmem => simp [hmem]
  · next hmem => simp [hmem]

theorem tryInsert_of_contains {s : FailureSet} {code : Code} (h : s.contains code = true) :
    s.tryInsert code = (false, s) := by
  rw [tryInsert, dif_pos ((s.contains_eq_true_iff code).1 h)]

/-- After any changes a set of failures lists the codes that were inserted since it
was last cleared or collected, each once and in the order in which they came first.
An insertion says whether the code was absent, and otherwise it changes nothing.
Sets are the same when they list the same codes in the same order, and collecting
the codes of a set gives the set again. -/
theorem codes_in_order_of_insertion :
    (∀ changes : List Change,
      let s := afterChanges changes
      let inserted := insertedCodes changes
      s.codes.Nodup ∧ s.codes.Pairwise (fun a b => inserted.idxOf a < inserted.idxOf b) ∧
        (∀ code, s.contains code = true ↔ code ∈ inserted) ∧
        s.size = inserted.toFinset.card ∧ s.isEmpty = decide (s.size = 0) ∧
        ∀ code, s.tryInsert code =
          if code ∈ inserted then (false, s) else (true, afterChanges (changes ++ [.insert code]))) ∧
    (∀ a b : FailureSet, a = b ↔ a.codes = b.codes) ∧
    (∀ s : FailureSet, ofList s.toList = s) ∧
    ∀ codes, ofList (ofList codes).toList = ofList codes := by
  refine ⟨?_, fun a b => ⟨congrArg codes, ext⟩, ofList_toList, fun codes => ofList_toList _⟩
  intro changes s inserted
  have hs : s = ofList inserted := afterChanges_eq_ofList changes
  have hcontains : ∀ code, s.contains code = true ↔ code ∈ inserted := by
    intro code
    rw [contains_eq_true_iff, hs, mem_ofList]
  refine ⟨s.nodup, ?_, hcontains, ?_, ?_, ?_⟩
  · rw [hs]
    exact pairwise_codes_ofList inserted
  · rw [hs]
    exact size_ofList inserted
  · rw [isEmpty, size, Bool.eq_iff_iff, List.isEmpty_iff, decide_eq_true_eq, List.length_eq_zero_iff]
  · intro code
    split
    · next hmem => exact tryInsert_of_contains ((hcontains code).2 hmem)
    · next hmem =>
      have habsent : s.contains code = false := by
        rw [← Bool.not_eq_true, hcontains]
        exact hmem
      rw [afterChanges_concat]
      exact Prod.ext (by rw [fst_tryInsert, habsent]; rfl) rfl

end FormRules.FailureSet
