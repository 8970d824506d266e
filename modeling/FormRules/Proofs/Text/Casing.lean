import FormRules.Proofs.Pattern.CharSet
import FormRules.Proofs.Unicode.Casing
import FormRules.Text.Casing

/-!
# Lower case within ASCII

On ASCII lower case is what it is for ASCII alone.  Outside of it the lower case of
a character lies outside of it too, but for two characters: the sign for kelvin
becomes the letter k, and the capital I with a dot becomes an i and a dot.  So a
word of ASCII without a k is the lower case of those texts only that differ from it
in the case of ASCII letters.
-/

namespace FormRules

open Unicode

namespace Text

/-- The texts differ at most in the case of ASCII letters. -/
def SameButCase (s t : String) : Prop := s.toList.map Char.toLower = t.toList.map Char.toLower

/-- A character of ASCII that no other character becomes in lower case. -/
def IsPlain (c : Char) : Prop := c.toNat < 0x80 ∧ c ≠ 'k'

instance : DecidablePred IsPlain := fun _ => inferInstanceAs (Decidable (_ ∧ _))

section

variable {c : Char} {n : Nat}

/-! ### Characters -/

/-- What is no capital letter of ASCII is kept. -/
theorem toLower_of_not_isUpper (h : c.isUpper = false) : c.toLower = c :=
  dif_neg (of_decide_eq_false h)

theorem toLower_of_not_ascii (h : 0x80 ≤ c.toNat) : c.toLower = c := by
  apply toLower_of_not_isUpper
  rw [← Bool.not_eq_true, isUpper_iff]
  omega

/-- Only the runs of the capitals and of the sign for kelvin lead to ASCII. -/
theorem lowerRuns_targets : ∀ r ∈ lowerRuns,
    r ∈ [⟨0x41, 0x5A, 1, 0x61⟩, ⟨0x212A, 0x212A, 1, 0x6B⟩] ∨
      0x80 ≤ r.target ∧ (r.image r.last < 0xD800 ∨ 0xE000 ≤ r.target ∧ r.image r.last < 0x110000) := by
  decide +kernel

theorem lowerChar_of_ascii (h : c.toNat < 0x80) : lowerChar c = [c.toLower] := by
  have htable : ∀ n < 0x80, lowerChar (Char.ofNat n) = [(Char.ofNat n).toLower] := by
    decide +kernel
  have hc := htable c.toNat h
  rwa [Char.ofNat_toNat] at hc

/-- Outside of ASCII, lower case leads out of ASCII but for the sign for kelvin. -/
theorem lowerCode_of_not_ascii (hvalid : n.isValidChar) (h : 0x80 ≤ n) (hkelvin : n ≠ 0x212A) :
    0x80 ≤ lowerCode n ∧ (lowerCode n).isValidChar := by
  rcases FoldRun.imageIn_cases lowerRuns n with hkept | ⟨r, hr, hcontains, himage⟩
  · rw [lowerCode, hkept]
    exact ⟨h, hvalid⟩
  · simp only [FoldRun.contains, Bool.and_eq_true, decide_eq_true_eq] at hcontains
    obtain ⟨⟨hfirst, hlast⟩, -⟩ := hcontains
    rw [lowerCode, himage]
    rcases lowerRuns_targets r hr with hmem | ⟨htarget, hbounds⟩
    · simp only [List.mem_cons, List.not_mem_nil, or_false] at hmem
      rcases hmem with rfl | rfl <;> dsimp only at hfirst hlast <;> omega
    · simp only [FoldRun.image, Nat.isValidChar] at hbounds ⊢
      omega

/-- In the lower case of a character outside of ASCII there is one that is not
plain. -/
theorem exists_not_isPlain_lowerChar (h : 0x80 ≤ c.toNat) : ∃ d ∈ lowerChar c, ¬ IsPlain d := by
  unfold lowerChar
  split
  · exact ⟨'\u0307', by simp, by decide⟩
  · refine ⟨_, List.mem_singleton.2 rfl, ?_⟩
    by_cases hkelvin : c.toNat = 0x212A
    · rw [hkelvin]
      decide +kernel
    · have hchar : c.toNat.isValidChar := c.valid
      obtain ⟨hlower, hvalid⟩ := lowerCode_of_not_ascii hchar h hkelvin
      rintro ⟨hascii, -⟩
      rw [Char.ofNat, dif_pos hvalid] at hascii
      exact absurd hascii (Nat.not_lt.2 hlower)

theorem not_isPlain_lowerSigma (before after : List Char) : ¬ IsPlain (lowerSigma before after) := by
  unfold lowerSigma
  split <;> decide

/-! ### Texts -/

/-- A text of plain characters is the lower case of a text exactly when the two
differ at most in the case of ASCII letters. -/
theorem lowerAfter_eq_iff {word : List Char} (hword : ∀ d ∈ word, IsPlain d)
    (before cs : List Char) : lowerAfter before cs = word ↔ cs.map Char.toLower = word := by
  induction cs generalizing before word with
  | nil => rfl
  | cons c rest ih =>
      rw [lowerAfter, List.map_cons]
      rcases Nat.lt_or_ge c.toNat 0x80 with hascii | hascii
      · have hsigma : c ≠ '\u03A3' := by
          rintro rfl
          contradiction
        rw [if_neg hsigma, lowerChar_of_ascii hascii, List.singleton_append]
        cases word with
        | nil => simp
        | cons d word =>
            rw [List.cons.injEq, List.cons.injEq,
              ih (fun d hd => hword d (List.mem_cons_of_mem _ hd))]
      · -- Neither the lower case nor the character itself is plain, so neither starts the word.
        constructor
        · rintro rfl
          exfalso
          split at hword
          · exact not_isPlain_lowerSigma before rest (hword _ (by simp))
          · obtain ⟨d, hd, hplain⟩ := exists_not_isPlain_lowerChar hascii
            exact hplain (hword d (List.mem_append_left _ hd))
        · rintro rfl
          have hplain := hword c.toLower List.mem_cons_self
          rw [toLower_of_not_ascii hascii] at hplain
          exact absurd hplain.1 (Nat.not_lt.2 hascii)

/-- A word that is written small. -/
def IsSmallWord (word : String) : Prop := ∀ d ∈ word.toList, IsPlain d ∧ d.isUpper = false

instance : DecidablePred IsSmallWord := fun _ => List.decidableBAll _ _

theorem lower_eq_iff {s word : String} (hword : IsSmallWord word) :
    lower s = word ↔ SameButCase s word := by
  have hsmall : word.toList.map Char.toLower = word.toList := by
    refine (List.map_congr_left ?_).trans (List.map_id _)
    intro d hd
    exact toLower_of_not_isUpper (hword d hd).2
  rw [SameButCase, hsmall, ← lowerAfter_eq_iff (fun d hd => (hword d hd).1) [],
    ← String.toList_inj, lower, String.toList_ofList]

end

end Text

end FormRules
