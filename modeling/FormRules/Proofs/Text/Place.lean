import FormRules.Text.Slice
import Mathlib.Data.List.Basic

/-!
# Places in a text

The place of a character is the number of bytes before it.  A slice between the
ends of a part of a text is that part, whatever the sizes of the characters
around it.
-/

namespace FormRules.Text

/-- The place of the first occurrence of a character. -/
def placeOf? (c : Char) : List Char → Option Nat
  | [] => none
  | d :: rest => if d = c then some 0 else (placeOf? c rest).map (d.utf8Size + ·)

private theorem foldl_sizes (sizes : List Nat) (n : Nat) :
    sizes.foldl (· + ·) n = n + sizes.foldl (· + ·) 0 := by
  induction sizes generalizing n with
  | nil => rfl
  | cons size sizes ih =>
      rw [List.foldl_cons, List.foldl_cons, ih (n + size), ih (0 + size)]
      omega

@[simp] theorem byteLength_nil : byteLength [] = 0 := rfl

@[simp] theorem byteLength_cons (c : Char) (cs : List Char) :
    byteLength (c :: cs) = c.utf8Size + byteLength cs := by
  unfold byteLength
  rw [List.map_cons, List.foldl_cons, foldl_sizes]
  omega

@[simp] theorem byteLength_append (a b : List Char) :
    byteLength (a ++ b) = byteLength a + byteLength b := by
  induction a with
  | nil => simp
  | cons c a ih =>
      rw [List.cons_append, byteLength_cons, byteLength_cons, ih]
      omega

/-- Only the empty text takes no bytes. -/
theorem byteLength_eq_zero_iff (cs : List Char) : byteLength cs = 0 ↔ cs = [] := by
  cases cs with
  | nil => simp
  | cons c rest =>
      have hpos := c.utf8Size_pos
      simp only [byteLength_cons, reduceCtorEq, iff_false]
      omega

theorem placeOf?_eq_none {c : Char} {cs : List Char} (h : c ∉ cs) : placeOf? c cs = none := by
  induction cs with
  | nil => rfl
  | cons d rest ih =>
      simp only [List.mem_cons, not_or] at h
      rw [placeOf?, if_neg (Ne.symm h.1), ih h.2]
      rfl

/-- A character stands where the text before its first occurrence ends. -/
theorem placeOf?_append {c : Char} {a : List Char} (h : c ∉ a) (b : List Char) :
    placeOf? c (a ++ c :: b) = some (byteLength a) := by
  induction a with
  | nil => simp [placeOf?]
  | cons d a ih =>
      simp only [List.mem_cons, not_or] at h
      rw [List.cons_append, placeOf?, if_neg (Ne.symm h.1), ih h.2, byteLength_cons]
      rfl

/-- Every character takes at least one byte. -/
theorem exists_byteLength_cons (c : Char) (cs : List Char) :
    ∃ n, byteLength (c :: cs) = n + 1 ∧ c.utf8Size ≤ n + 1 ∧
      n + 1 - c.utf8Size = byteLength cs := by
  have hpos := c.utf8Size_pos
  refine ⟨c.utf8Size - 1 + byteLength cs, ?_, ?_, ?_⟩
  · rw [byteLength_cons]
    omega
  · omega
  · omega

theorem dropBytes?_append (a b : List Char) : dropBytes? (byteLength a) (a ++ b) = some b := by
  induction a with
  | nil => cases b <;> rfl
  | cons c a ih =>
      obtain ⟨n, hn, hfits, hrest⟩ := exists_byteLength_cons c a
      rw [hn, List.cons_append, dropBytes?, if_pos hfits, hrest, ih]

theorem takeBytes?_append (a b : List Char) : takeBytes? (byteLength a) (a ++ b) = some a := by
  induction a with
  | nil => cases b <;> rfl
  | cons c a ih =>
      obtain ⟨n, hn, hfits, hrest⟩ := exists_byteLength_cons c a
      rw [hn, List.cons_append, takeBytes?, if_pos hfits, hrest, ih]
      rfl

/-- The slice between the two ends of a part is the part. -/
theorem slice?_append (a b c : List Char) :
    slice? (byteLength a) (byteLength a + byteLength b) (a ++ (b ++ c)) = some b := by
  rw [slice?, dropBytes?_append, Nat.add_sub_cancel_left]
  exact takeBytes?_append b c

end FormRules.Text
