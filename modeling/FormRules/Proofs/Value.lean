import FormRules.Value

/-!
# Texts of values

A value that is no text is shown with letters, digits, signs and points alone: a
truth value is one of two words, and a number has digits, a sign and a point, or
it is one of the words for what is no finite number.  So a rule that asks for any
other character fails all values but texts.
-/

namespace FormRules

/-- The characters that a value can be shown with that is no text. -/
def IsPlain (c : Char) : Prop := c.isAlphanum = true ∨ c = '-' ∨ c = '.'

instance (c : Char) : Decidable (IsPlain c) := inferInstanceAs (Decidable (_ ∨ _))

section

variable {c : Char}

theorem isPlain_of_all {s : String} (h : s.toList.all (fun c => decide (IsPlain c)) = true)
    (hc : c ∈ s.toList) : IsPlain c :=
  of_decide_eq_true (List.all_eq_true.1 h c hc)

namespace Number

theorem isPlain_of_mem_toDigits {n : Nat} (h : c ∈ Nat.toDigits 10 n) : IsPlain c := by
  have hdigit := Nat.isDigit_of_mem_toDigits (by decide) (by decide) h
  exact .inl (by simp [Char.isAlphanum, hdigit])

theorem isPlain_of_mem_replicate {n : Nat} (h : c ∈ List.replicate n '0') : IsPlain c := by
  rw [List.eq_of_mem_replicate h]
  decide

theorem isPlain_of_mem_positional {d : Decimal} (h : c ∈ d.positional.toList) : IsPlain c := by
  have hpadded : ∀ n, ∀ c ∈ List.replicate n '0' ++ Nat.toDigits 10 d.digits, IsPlain c := by
    intro n c hc
    rcases List.mem_append.1 hc with hc | hc
    · exact isPlain_of_mem_replicate hc
    · exact isPlain_of_mem_toDigits hc
  simp only [Decimal.positional] at h
  split at h
  · rw [String.toList_ofList, List.mem_append] at h
    rcases h with h | h
    · exact isPlain_of_mem_toDigits h
    · exact isPlain_of_mem_replicate h
  · rw [String.toList_ofList] at h
    split at h
    · exact hpadded _ c (List.mem_of_mem_take h)
    · rcases List.mem_append.1 h with h | h
      · exact hpadded _ c (List.mem_of_mem_take h)
      rcases List.mem_cons.1 h with rfl | h
      · decide
      · have hfraction := (List.dropWhile_sublist _).mem (List.mem_reverse.1 h)
        exact hpadded _ c (List.mem_of_mem_drop (List.mem_reverse.1 hfraction))

theorem isPlain_of_mem_text {x : Float} (h : c ∈ (text x).toList) : IsPlain c := by
  have hmagnitude : ∀ b : Binary, ∀ c ∈
      (if x.isInf then "inf" else if b.significand = 0 then "0" else b.shortest.positional).toList,
      IsPlain c := by
    intro b c hc
    split at hc
    · exact isPlain_of_all (by decide) hc
    · split at hc
      · exact isPlain_of_all (by decide) hc
      · exact isPlain_of_mem_positional hc
  simp only [text] at h
  split at h
  · exact isPlain_of_all (by decide) h
  · split at h
    · rw [String.toList_append, List.mem_append] at h
      rcases h with h | h
      · exact isPlain_of_all (by decide) h
      · exact hmagnitude _ c h
    · exact hmagnitude _ c h

end Number

/-- Only texts are shown with other characters. -/
theorem Value.exists_text_of_mem_render {value : Value} (h : c ∈ value.render.toList)
    (hc : ¬ IsPlain c) : ∃ s, value = .text s := by
  cases value with
  | null => exact absurd h (by simp [render])
  | bool b =>
      cases b with
      | true => exact absurd (isPlain_of_all (by decide) h) hc
      | false => exact absurd (isPlain_of_all (by decide) h) hc
  | number x => exact absurd (Number.isPlain_of_mem_text h) hc
  | text s => exact ⟨s, rfl⟩

/-- What asks for another character is asked of texts alone. -/
theorem Value.render_iff_text {P : List Char → Prop} {value : Value} (hc : ¬ IsPlain c)
    (hP : ∀ t, P t → c ∈ t) : P value.render.toList ↔ ∃ s, value = .text s ∧ P s.toList := by
  constructor
  · intro h
    obtain ⟨s, rfl⟩ := exists_text_of_mem_render (hP _ h) hc
    exact ⟨s, rfl, h⟩
  · rintro ⟨s, rfl, h⟩
    exact h

end

end FormRules
