import FormRules.Pattern.CharSet
import FormRules.Unicode.Casing

/-!
# What folds to a character

A code point that no run of the folding holds represents the code points that
differ from it in case alone.  Among the representatives is all of ASCII but the
capital letters, and few runs lead there: that of the capitals, and two for single
characters outside of ASCII.
-/

namespace FormRules.Unicode

section

variable {r : FoldRun} {m n : Nat}

/-- What is found as a source in a run is in the run. -/
theorem FoldRun.contains_of_source? (h : r.source? m = some n) : r.contains n = true := by
  simp only [source?] at h
  split at h
  · next hsource =>
    obtain rfl := Option.some.inj h
    exact hsource.2
  · contradiction

/-- A code point is kept, or a run has an image for it. -/
theorem FoldRun.imageIn_cases (runs : List FoldRun) (n : Nat) :
    imageIn runs n = n ∨ ∃ r ∈ runs, r.contains n = true ∧ imageIn runs n = r.image n := by
  rw [imageIn]
  split
  · next r hfind =>
    have hcontains : r.contains n = true := by simpa using List.find?_some hfind
    exact .inr ⟨r, List.mem_of_find?_eq_some hfind, hcontains, rfl⟩
  · exact .inl rfl

/-- A code point is kept, or a run folds it. -/
theorem simpleFold_cases (n : Nat) :
    simpleFold n = n ∨ ∃ r ∈ foldRuns, r.contains n = true ∧ simpleFold n = r.image n :=
  FoldRun.imageIn_cases foldRuns n

/-- No run holds the code point. -/
def IsRepresentative (m : Nat) : Prop := ∀ r ∈ foldRuns, r.contains m = false

theorem simpleFold_of_isRepresentative (h : IsRepresentative m) : simpleFold m = m := by
  rcases simpleFold_cases m with hfold | ⟨r, hr, hcontains, -⟩
  · exact hfold
  · rw [h r hr] at hcontains
    contradiction

/-- A representative is a variant of what folds to it. -/
theorem mem_caseVariants_iff (h : IsRepresentative m) :
    m ∈ caseVariants n ↔ simpleFold n = m := by
  rw [caseVariants, List.mem_cons]
  constructor
  · rintro (hm | hm)
    · exact hm.symm
    · obtain ⟨r, hr, hsource⟩ := List.mem_filterMap.1 hm
      have hcontains := FoldRun.contains_of_source? hsource
      rw [h r hr] at hcontains
      contradiction
  · intro hfold
    exact .inl hfold.symm

/-- The set of a representative in any case holds what folds to it. -/
theorem mem_caseFold_single {c d : Char} (h : IsRepresentative c.toNat) :
    (CharSet.caseFold (.single c)).mem d = true ↔ simpleFold d.toNat = c.toNat := by
  rw [← mem_caseVariants_iff h, CharSet.mem, CharSet.memCode, List.any_eq_true]
  simp only [CharSet.single, CharSet.memCode, Bool.and_eq_true, decide_eq_true_eq]
  constructor
  · rintro ⟨k, hk, hle, hge⟩
    rwa [Nat.le_antisymm hle hge]
  · intro hc
    exact ⟨_, hc, Nat.le_refl _, Nat.le_refl _⟩

/-! ### Characters of ASCII -/

/-- The code points of ASCII but for the capital letters. -/
def IsSmall (m : Nat) : Prop := m < 0x80 ∧ ¬ (0x41 ≤ m ∧ m ≤ 0x5A)

instance : DecidablePred IsSmall := fun _ => inferInstanceAs (Decidable (_ ∧ _))

/-- The other forms of a code point of ASCII that is no capital letter. -/
def otherForms (m : Nat) : List Nat :=
  (if 0x61 ≤ m ∧ m ≤ 0x7A then [m - 0x20] else []) ++
    (if m = 0x73 then [0x17F] else if m = 0x6B then [0x212A] else [])

/-- Only the run of the capitals starts in ASCII. -/
theorem eq_or_le_first : ∀ r ∈ foldRuns, r = ⟨0x41, 0x5A, 1, 0x61⟩ ∨ 0x80 ≤ r.first := by
  decide +kernel

/-- Only three runs lead to ASCII. -/
theorem mem_or_le_target : ∀ r ∈ foldRuns,
    r ∈ [⟨0x41, 0x5A, 1, 0x61⟩, ⟨0x17F, 0x17F, 1, 0x73⟩, ⟨0x212A, 0x212A, 1, 0x6B⟩] ∨
      0x80 ≤ r.target := by
  decide +kernel

theorem isRepresentative_of_isSmall (h : IsSmall m) : IsRepresentative m := by
  intro r hr
  rw [← Bool.not_eq_true]
  intro hcontains
  simp only [FoldRun.contains, Bool.and_eq_true, decide_eq_true_eq] at hcontains
  obtain ⟨hlow, hcapital⟩ := h
  rcases eq_or_le_first r hr with rfl | hfirst
  · exact hcapital hcontains.1
  · omega

theorem mem_otherForms_of_image (h : IsSmall (r.image n)) (hr : r ∈ foldRuns)
    (hcontains : r.contains n = true) : n ∈ otherForms (r.image n) := by
  simp only [FoldRun.contains, Bool.and_eq_true, decide_eq_true_eq] at hcontains
  obtain ⟨⟨hfirst, hlast⟩, -⟩ := hcontains
  obtain ⟨hlow, -⟩ := h
  simp only [FoldRun.image] at hlow ⊢
  rcases mem_or_le_target r hr with hmem | htarget
  · simp only [List.mem_cons, List.not_mem_nil, or_false] at hmem
    rcases hmem with rfl | rfl | rfl <;> dsimp only at hfirst hlast ⊢
    · have hletter : 0x61 ≤ 0x61 + (n - 0x41) ∧ 0x61 + (n - 0x41) ≤ 0x7A := by omega
      have hsource : 0x61 + (n - 0x41) - 0x20 = n := by omega
      rw [otherForms, if_pos hletter, hsource]
      exact List.mem_append_left _ (List.mem_singleton.2 rfl)
    · obtain rfl : n = 0x17F := by omega
      decide
    · obtain rfl : n = 0x212A := by omega
      decide
  · omega

theorem simpleFold_of_mem_otherForms (h : IsSmall m) (hn : n ∈ otherForms m) :
    simpleFold n = m := by
  have htable : ∀ m < 0x80, IsSmall m → ∀ n ∈ otherForms m, simpleFold n = m := by
    decide +kernel
  exact htable m h.1 h n hn

/-- What folds to a code point of ASCII. -/
theorem simpleFold_eq_iff (h : IsSmall m) : simpleFold n = m ↔ n = m ∨ n ∈ otherForms m := by
  constructor
  · rintro rfl
    rcases simpleFold_cases n with hfold | ⟨r, hr, hcontains, hfold⟩
    · exact .inl hfold.symm
    · right
      rw [hfold] at h ⊢
      exact mem_otherForms_of_image h hr hcontains
  · rintro (rfl | hn)
    · exact simpleFold_of_isRepresentative (isRepresentative_of_isSmall h)
    · exact simpleFold_of_mem_otherForms h hn

end

end FormRules.Unicode
