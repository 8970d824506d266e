import FormRules.Failure
import Mathlib.Data.List.Induction

/-!
# Collecting failure codes

Codes are collected one after the other, and a code that is there already is
left out.  So the codes are listed in the order of their first occurrence, and
codes that come later only add those that are new.
-/

namespace FormRules.FailureSet

variable {code : Code}

theorem foldl_insert_concat (codes : List Code) (code : Code) (s : FailureSet) :
    (codes ++ [code]).foldl insert s = (codes.foldl insert s).insert code := by
  rw [List.foldl_append, List.foldl_cons, List.foldl_nil]

theorem ofList_concat (codes : List Code) (code : Code) :
    ofList (codes ++ [code]) = (ofList codes).insert code :=
  foldl_insert_concat codes code empty

/-- Codes are listed in the order of their first occurrence. -/
theorem codes_ofList (codes : List Code) : (ofList codes).codes = codes.eraseDups := by
  induction codes using List.reverseRecOn with
  | nil => rfl
  | append_singleton codes code ih =>
      rw [ofList_concat, codes_insert, List.eraseDups_append, ih]
      by_cases h : code ∈ codes
      · simp [h, List.removeAll]
      · simp [h, List.removeAll, List.eraseDups_cons]

theorem mem_ofList {codes : List Code} : code ∈ (ofList codes).codes ↔ code ∈ codes := by
  rw [codes_ofList, List.mem_eraseDups]

/-- Codes that are added to a set add those of their own set that are not in
it. -/
theorem codes_foldl_insert (codes : List Code) (s : FailureSet) :
    (codes.foldl insert s).codes =
      s.codes ++ (ofList codes).codes.filter fun code => code ∉ s.codes := by
  induction codes using List.reverseRecOn with
  | nil => simp [ofList]
  | append_singleton codes code ih =>
      rw [foldl_insert_concat, ofList_concat, codes_insert, codes_insert, ih]
      by_cases hs : code ∈ s.codes
      · by_cases hcodes : code ∈ codes <;> simp [hs, mem_ofList, hcodes]
      · by_cases hcodes : code ∈ codes <;> simp [hs, mem_ofList, hcodes]

/-- Codes after others add those that the others do not have. -/
theorem codes_ofList_append (before after : List Code) :
    (ofList (before ++ after)).codes =
      (ofList before).codes ++
        (ofList after).codes.filter fun code => code ∉ (ofList before).codes := by
  rw [ofList, List.foldl_append]
  exact codes_foldl_insert after (ofList before)

end FormRules.FailureSet
