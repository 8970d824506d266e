import FormRules.Proofs.Text.Trim
import FormRules.Rule.Token

/-!
# The brackets of a piece

A trimmed piece of a rule string has one of four layouts: it lacks a kind of
bracket, it repeats a kind, or it has one bracket of each kind, in the wrong or
in the right order.  The reader is evaluated on each of them, so what it does
with any piece is known from the layout of the piece.
-/

namespace FormRules.Token

open Text

/-- A text without brackets. -/
def Bare (cs : List Char) : Prop := '[' ∉ cs ∧ ']' ∉ cs

theorem Bare.mono {a b : List Char} (h : Bare b) (hsubset : a ⊆ b) : Bare a :=
  ⟨fun hmem => h.1 (hsubset hmem), fun hmem => h.2 (hsubset hmem)⟩

/-- A text in which both brackets occur. -/
def Bracketed (cs : List Char) : Prop := '[' ∈ cs ∧ ']' ∈ cs

/-- The brackets of a piece: one kind is missing, one kind is repeated, or
there is one of each, in the wrong or in the right order. -/
inductive Layout : List Char → Prop
  | lacking {piece : List Char} (h : '[' ∉ piece ∨ ']' ∉ piece) : Layout piece
  | repeated {piece : List Char} (hboth : Bracketed piece)
      (h : 1 < piece.count '[' ∨ 1 < piece.count ']') : Layout piece
  | reversed {a b c : List Char} (ha : Bare a) (hb : Bare b) (hc : Bare c) :
      Layout (a ++ ']' :: (b ++ '[' :: c))
  | ordered {a b c : List Char} (ha : Bare a) (hb : Bare b) (hc : Bare c) :
      Layout (a ++ '[' :: (b ++ ']' :: c))

/-- Every piece has one of the four layouts. -/
theorem layout (piece : List Char) : Layout piece := by
  by_cases hlacks : '[' ∉ piece ∨ ']' ∉ piece
  · exact .lacking hlacks
  simp only [not_or, not_not] at hlacks
  by_cases hcount : 1 < piece.count '[' ∨ 1 < piece.count ']'
  · exact .repeated hlacks hcount
  obtain ⟨x, y, rfl, hx⟩ := List.eq_append_cons_of_mem hlacks.1
  -- One opening bracket at most, so there is none after the first.
  have hy : '[' ∉ y := by
    intro hmem
    have := List.count_pos_iff.2 hmem
    simp only [List.count_append, List.count_cons_self] at hcount
    omega
  have hclose : ']' ∈ x ∨ ']' ∈ y := by simpa using hlacks.2
  rcases hclose with hmem | hmem
  · obtain ⟨a, b, rfl, ha⟩ := List.eq_append_cons_of_mem hmem
    simp only [List.mem_append, List.mem_cons, not_or] at hx
    have hrest : ']' ∉ b ∧ ']' ∉ y := by
      rw [← List.count_eq_zero, ← List.count_eq_zero]
      simp only [List.count_append, List.count_cons_self, List.count_cons_of_ne, ne_eq,
        Char.reduceEq, not_false_eq_true] at hcount
      omega
    rw [List.append_assoc, List.cons_append]
    exact .reversed ⟨hx.1, ha⟩ ⟨hx.2.2, hrest.1⟩ ⟨hy, hrest.2⟩
  · obtain ⟨b, c, rfl, hb⟩ := List.eq_append_cons_of_mem hmem
    simp only [List.mem_append, List.mem_cons, not_or] at hy
    have hrest : ']' ∉ x ∧ ']' ∉ c := by
      rw [← List.count_eq_zero, ← List.count_eq_zero]
      simp only [List.count_append, List.count_cons_self, List.count_cons_of_ne, ne_eq,
        Char.reduceEq, not_false_eq_true] at hcount
      omega
    exact .ordered ⟨hx, hrest.1⟩ ⟨hy.1, hb⟩ ⟨hy.2.2, hrest.2⟩

theorem takeWhile_bne_append {c : Char} {a : List Char} (h : c ∉ a) (b : List Char) :
    (a ++ c :: b).takeWhile (· != c) = a := by
  rw [List.takeWhile_append_of_pos, List.takeWhile_cons_of_neg (by simp), List.append_nil]
  intro d hd
  simpa using ne_of_mem_of_not_mem hd h

theorem dropWhile_bne_append {c : Char} {a : List Char} (h : c ∉ a) (b : List Char) :
    (a ++ c :: b).dropWhile (· != c) = c :: b := by
  rw [List.dropWhile_append_of_pos, List.dropWhile_cons_of_neg (by simp)]
  intro d hd
  simpa using ne_of_mem_of_not_mem hd h

theorem readTrimmed_lacking {piece : List Char} (hne : piece ≠ [])
    (h : '[' ∉ piece ∨ ']' ∉ piece) :
    readTrimmed piece = .ok ⟨String.ofList piece, none⟩ := by
  rw [readTrimmed, if_neg hne, if_pos h]

theorem readTrimmed_repeated {piece : List Char} (hboth : Bracketed piece)
    (h : 1 < piece.count '[' ∨ 1 < piece.count ']') :
    readTrimmed piece = .error .repeatedBrackets := by
  have hne : piece ≠ [] := List.ne_nil_of_mem hboth.1
  rw [readTrimmed, if_neg hne, if_neg (by simp [hboth.1, hboth.2]), if_pos h]

/-- A piece with one bracket of each kind is read by what stands before and
after the opening bracket. -/
theorem readTrimmed_single {x y : List Char} (hx : '[' ∉ x) (hy : '[' ∉ y)
    (hclose : (x ++ '[' :: y).count ']' = 1) :
    readTrimmed (x ++ '[' :: y) =
      if ']' ∈ x then .error .reversedBrackets
      else if y.dropWhile (· != ']') ≠ [']'] then .error .trailingText
      else if trim x = [] then .error .missingName
      else .ok ⟨String.ofList (trim x), some (String.ofList (y.takeWhile (· != ']')))⟩ := by
  have hmem : ']' ∈ x ++ '[' :: y := List.count_pos_iff.1 (by omega)
  have hopen : (x ++ '[' :: y).count '[' = 1 := by
    rw [List.count_append, List.count_cons_self, List.count_eq_zero.2 hx, List.count_eq_zero.2 hy]
  rw [readTrimmed, if_neg (by simp), if_neg (by simp [hmem]), if_neg (by omega),
    takeWhile_bne_append hx, dropWhile_bne_append hx]
  rfl

/-- A text without brackets does not count for any bracket. -/
theorem Bare.count {cs : List Char} (h : Bare cs) : cs.count '[' = 0 ∧ cs.count ']' = 0 :=
  ⟨List.count_eq_zero.2 h.1, List.count_eq_zero.2 h.2⟩

theorem count_reversed {a b c : List Char} (ha : Bare a) (hb : Bare b) (hc : Bare c) :
    (a ++ ']' :: (b ++ '[' :: c)).count '[' = 1 ∧
      (a ++ ']' :: (b ++ '[' :: c)).count ']' = 1 := by
  simp [List.count_append, ha.count, hb.count, hc.count]

theorem count_ordered {a b c : List Char} (ha : Bare a) (hb : Bare b) (hc : Bare c) :
    (a ++ '[' :: (b ++ ']' :: c)).count '[' = 1 ∧
      (a ++ '[' :: (b ++ ']' :: c)).count ']' = 1 := by
  simp [List.count_append, ha.count, hb.count, hc.count]

theorem readTrimmed_reversed {a b c : List Char} (ha : Bare a) (hb : Bare b) (hc : Bare c) :
    readTrimmed (a ++ ']' :: (b ++ '[' :: c)) = .error .reversedBrackets := by
  have hcount := (count_reversed ha hb hc).2
  have hx : '[' ∉ a ++ ']' :: b := by simp [ha.1, hb.1]
  rw [show a ++ ']' :: (b ++ '[' :: c) = (a ++ ']' :: b) ++ '[' :: c by simp] at hcount ⊢
  rw [readTrimmed_single hx hc.1 hcount, if_pos (by simp)]

theorem readTrimmed_ordered {a b c : List Char} (ha : Bare a) (hb : Bare b) (hc : Bare c) :
    readTrimmed (a ++ '[' :: (b ++ ']' :: c)) =
      if c ≠ [] then .error .trailingText
      else if trim a = [] then .error .missingName
      else .ok ⟨String.ofList (trim a), some (String.ofList b)⟩ := by
  have hy : '[' ∉ b ++ ']' :: c := by simp [hb.1, hc.1]
  rw [readTrimmed_single ha.1 hy (count_ordered ha hb hc).2, if_neg ha.2,
    dropWhile_bne_append hb.2, takeWhile_bne_append hb.2]
  simp

end FormRules.Token
