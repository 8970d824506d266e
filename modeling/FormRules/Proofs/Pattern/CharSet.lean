import FormRules.Pattern.CharSet

/-!
# Members of sets

The sets that the rules name, by their characters.
-/

namespace FormRules

section

variable {c : Char}

theorem isDigit_iff : c.isDigit = true ↔ 0x30 ≤ c.toNat ∧ c.toNat ≤ 0x39 := by
  change (decide ('0'.val ≤ c.val) && decide (c.val ≤ '9'.val)) = true ↔ _
  rw [Bool.and_eq_true, decide_eq_true_eq, decide_eq_true_eq, UInt32.le_iff_toNat_le,
    UInt32.le_iff_toNat_le]
  rfl

theorem isUpper_iff : c.isUpper = true ↔ 0x41 ≤ c.toNat ∧ c.toNat ≤ 0x5A := by
  change decide ('A'.val ≤ c.val ∧ c.val ≤ 'Z'.val) = true ↔ _
  rw [decide_eq_true_eq, UInt32.le_iff_toNat_le, UInt32.le_iff_toNat_le]
  rfl

theorem isLower_iff : c.isLower = true ↔ 0x61 ≤ c.toNat ∧ c.toNat ≤ 0x7A := by
  change (decide ('a'.val ≤ c.val) && decide (c.val ≤ 'z'.val)) = true ↔ _
  rw [Bool.and_eq_true, decide_eq_true_eq, decide_eq_true_eq, UInt32.le_iff_toNat_le,
    UInt32.le_iff_toNat_le]
  rfl

theorem isAlpha_iff : c.isAlpha = true ↔
    (0x41 ≤ c.toNat ∧ c.toNat ≤ 0x5A) ∨ (0x61 ≤ c.toNat ∧ c.toNat ≤ 0x7A) := by
  change (c.isUpper || c.isLower) = true ↔ _
  rw [Bool.or_eq_true, isUpper_iff, isLower_iff]

end

namespace CharSet

section

variable {c d : Char} {a b : CharSet}

theorem mem_union : (union a b).mem c = true ↔ a.mem c = true ∨ b.mem c = true := by
  simp [mem, memCode]

theorem mem_single : (single d).mem c = true ↔ c = d := by
  simp only [mem, single, memCode, Bool.and_eq_true, decide_eq_true_eq]
  rw [← Char.toNat_inj]
  omega

theorem not_mem_none : none.mem c = false := rfl

theorem mem_ofString {s : String} : (ofString s).mem c = true ↔ c ∈ s.toList := by
  rw [ofString]
  induction s.toList with
  | nil => simp [not_mem_none]
  | cons d rest ih => rw [List.foldr_cons, mem_union, mem_single, ih, List.mem_cons]

theorem mem_asciiDigit : asciiDigit.mem c = true ↔ c.isDigit = true := by
  simp only [mem, asciiDigit, memCode, Bool.and_eq_true, decide_eq_true_eq, isDigit_iff]

theorem mem_asciiLetter : asciiLetter.mem c = true ↔ c.isAlpha = true := by
  simp only [mem, asciiLetter, memCode, Bool.or_eq_true, Bool.and_eq_true, decide_eq_true_eq,
    isAlpha_iff]

theorem mem_asciiAlphanumeric : asciiAlphanumeric.mem c = true ↔ c.isAlphanum = true := by
  rw [asciiAlphanumeric, mem_union, mem_asciiDigit, mem_asciiLetter, Char.isAlphanum,
    Bool.or_eq_true, or_comm]

theorem mem_asciiWord : asciiWord.mem c = true ↔ c.isAlphanum = true ∨ c = '_' := by
  rw [asciiWord, mem_union, mem_asciiAlphanumeric, mem_single]

end

end CharSet

end FormRules
