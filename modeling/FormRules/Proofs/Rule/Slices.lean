import FormRules.Proofs.Rule.Layout
import FormRules.Proofs.Text.Place

/-!
# Reading a piece by places

A piece can also be read by the places of its brackets, with slices of the text
between them.  Places are counted in bytes, so a slice might leave the piece or
cut a character in two.  It never does, and the token or the fault is the same.
-/

namespace FormRules.Token

open Text

/-- Read a trimmed piece by places.  There is no result when a slice does not
exist. -/
def readSliced (piece : List Char) : Option (Except TokenFault Token) :=
  if piece = [] then
    some (.error .emptyRule)
  else
    match placeOf? '[' piece, placeOf? ']' piece with
    | some opening, some closing =>
        if 1 < piece.count '[' ∨ 1 < piece.count ']' then
          some (.error .repeatedBrackets)
        else if closing < opening then
          some (.error .reversedBrackets)
        else if closing ≠ byteLength piece - 1 then
          some (.error .trailingText)
        else
          (slice? 0 opening piece).bind fun before =>
            if trim before = [] then
              some (.error .missingName)
            else
              (slice? (opening + 1) closing piece).map fun inside =>
                .ok ⟨String.ofList (trim before), some (String.ofList inside)⟩
    | _, _ => some (.ok ⟨String.ofList piece, none⟩)

theorem readSliced_lacking {piece : List Char} (hne : piece ≠ [])
    (h : '[' ∉ piece ∨ ']' ∉ piece) :
    readSliced piece = some (.ok ⟨String.ofList piece, none⟩) := by
  rw [readSliced, if_neg hne]
  rcases h with h | h
  · rw [placeOf?_eq_none h]
  · rw [placeOf?_eq_none h]
    cases placeOf? '[' piece <;> rfl

theorem exists_placeOf? {c : Char} {cs : List Char} (h : c ∈ cs) :
    ∃ place, placeOf? c cs = some place := by
  obtain ⟨a, b, rfl, ha⟩ := List.eq_append_cons_of_mem h
  exact ⟨byteLength a, placeOf?_append ha b⟩

theorem readSliced_repeated {piece : List Char} (hboth : Bracketed piece)
    (h : 1 < piece.count '[' ∨ 1 < piece.count ']') :
    readSliced piece = some (.error .repeatedBrackets) := by
  obtain ⟨opening, hopening⟩ := exists_placeOf? hboth.1
  obtain ⟨closing, hclosing⟩ := exists_placeOf? hboth.2
  rw [readSliced, if_neg (List.ne_nil_of_mem hboth.1), hopening, hclosing]
  exact if_pos h

theorem readSliced_reversed {a b c : List Char} (ha : Bare a) (hb : Bare b) (hc : Bare c) :
    readSliced (a ++ ']' :: (b ++ '[' :: c)) = some (.error .reversedBrackets) := by
  have hclosing : placeOf? ']' (a ++ ']' :: (b ++ '[' :: c)) = some (byteLength a) :=
    placeOf?_append ha.2 _
  have hopening : placeOf? '[' (a ++ ']' :: (b ++ '[' :: c)) =
      some (byteLength (a ++ ']' :: b)) := by
    have hx : '[' ∉ a ++ ']' :: b := by simp [ha.1, hb.1]
    simpa using placeOf?_append hx c
  have hcount := count_reversed ha hb hc
  have hbefore : byteLength a < byteLength (a ++ ']' :: b) := by
    have hpos := ']'.utf8Size_pos
    rw [byteLength_append, byteLength_cons]
    omega
  rw [readSliced, if_neg (by simp), hopening, hclosing]
  dsimp only
  rw [if_neg (by omega), if_pos hbefore]

theorem readSliced_ordered {a b c : List Char} (ha : Bare a) (hb : Bare b) (hc : Bare c) :
    readSliced (a ++ '[' :: (b ++ ']' :: c)) =
      some (if c ≠ [] then .error .trailingText
        else if trim a = [] then .error .missingName
        else .ok ⟨String.ofList (trim a), some (String.ofList b)⟩) := by
  have hopening : placeOf? '[' (a ++ '[' :: (b ++ ']' :: c)) = some (byteLength a) :=
    placeOf?_append ha.1 _
  have hclosing : placeOf? ']' (a ++ '[' :: (b ++ ']' :: c)) =
      some (byteLength (a ++ ['[']) + byteLength b) := by
    have hx : ']' ∉ a ++ '[' :: b := by simp [ha.2, hb.2]
    have hplace := placeOf?_append hx c
    simp only [List.append_assoc, List.cons_append, byteLength_append, byteLength_cons] at hplace
    rw [hplace, byteLength_append, byteLength_cons, byteLength_nil]
    simp only [Option.some.injEq]
    omega
  have hsize : byteLength (a ++ ['[']) = byteLength a + 1 := by
    rw [byteLength_append]
    rfl
  have hlast : byteLength (a ++ '[' :: (b ++ ']' :: c)) =
      byteLength a + 1 + byteLength b + 1 + byteLength c := by
    simp only [byteLength_append, byteLength_cons]
    rw [show '['.utf8Size = 1 from rfl, show ']'.utf8Size = 1 from rfl]
    omega
  -- The two slices are the text before the brackets and the text between them.
  have hname : slice? 0 (byteLength a) (a ++ '[' :: (b ++ ']' :: c)) = some a := by
    simpa using slice?_append [] a ('[' :: (b ++ ']' :: c))
  have hinside : slice? (byteLength a + 1) (byteLength a + 1 + byteLength b)
      (a ++ '[' :: (b ++ ']' :: c)) = some b := by
    rw [← hsize]
    simpa using slice?_append (a ++ ['[']) b (']' :: c)
  have hcount := count_ordered ha hb hc
  rw [readSliced, if_neg (by simp), hopening, hclosing]
  dsimp only
  rw [hsize, if_neg (by omega), if_neg (by omega), hlast, hname, hinside]
  by_cases hrest : c = []
  · subst hrest
    rw [if_neg (by simp), if_neg (by simp)]
    by_cases hblank : trim a = []
    · simp [hblank]
    · simp [hblank]
  · have hpos : byteLength c ≠ 0 := fun h => hrest ((byteLength_eq_zero_iff c).1 h)
    rw [if_pos (by omega), if_pos hrest]

/-- Every slice of the reader by places exists, and it reads what the reader by
characters reads. -/
theorem readSliced_eq_readTrimmed (piece : List Char) :
    readSliced piece = some (readTrimmed piece) := by
  cases layout piece with
  | lacking h =>
      by_cases hne : piece = []
      · subst hne
        rfl
      · rw [readSliced_lacking hne h, readTrimmed_lacking hne h]
  | repeated hboth h => rw [readSliced_repeated hboth h, readTrimmed_repeated hboth h]
  | reversed ha hb hc => rw [readSliced_reversed ha hb hc, readTrimmed_reversed ha hb hc]
  | ordered ha hb hc => rw [readSliced_ordered ha hb hc, readTrimmed_ordered ha hb hc]

end FormRules.Token
