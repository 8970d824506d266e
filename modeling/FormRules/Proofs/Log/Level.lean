import FormRules.Log.Level
import FormRules.Proofs.Entries
import FormRules.Proofs.Text.Casing

/-!
# Spellings of levels and formats

A word is read in lower case and looked up among the spellings.  All of them are
small words without a k, so what is read are the spellings in any case of ASCII
letters, and nothing else.
-/

namespace FormRules

open Text (SameButCase IsSmallWord lower_eq_iff)

/-- The words are small, and no two of them are the same. -/
structure WellSpelled {α : Type} (spellings : List (String × α)) : Prop where
  distinct : (spellings.map Prod.fst).Nodup
  small : ∀ spelling ∈ spellings, IsSmallWord spelling.1

section

variable {α : Type} {refusal s : String} {spellings : List (String × α)}

/-- A word is read as what it spells, in whatever case. -/
theorem readSpelling_eq_ok_iff (h : WellSpelled spellings) {a : α} :
    readSpelling refusal spellings s = .ok a ↔
      ∃ word, (word, a) ∈ spellings ∧ SameButCase s word := by
  have hlast : lastOf spellings (Text.lower s) = some a ↔
      ∃ word, (word, a) ∈ spellings ∧ SameButCase s word := by
    rw [lastOf_eq_some_iff_mem h.distinct]
    constructor
    · intro hmem
      exact ⟨_, hmem, (lower_eq_iff (h.small _ hmem)).1 rfl⟩
    · rintro ⟨word, hmem, hsame⟩
      rwa [(lower_eq_iff (h.small _ hmem)).2 hsame]
  rw [← hlast, readSpelling, lookup_eq_lastOf h.distinct]
  cases lastOf spellings (Text.lower s) <;> simp

/-- Something is read from the spellings alone. -/
theorem exists_readSpelling_iff (h : WellSpelled spellings) :
    (∃ a, readSpelling refusal spellings s = .ok a) ↔
      ∃ word ∈ spellings.map Prod.fst, SameButCase s word := by
  simp only [readSpelling_eq_ok_iff h, List.mem_map]
  constructor
  · rintro ⟨a, word, hmem, hsame⟩
    exact ⟨word, ⟨(word, a), hmem, rfl⟩, hsame⟩
  · rintro ⟨_, ⟨⟨word, a⟩, hmem, rfl⟩, hsame⟩
    exact ⟨a, word, hmem, hsame⟩

/-- A word that is not read is quoted as it is. -/
theorem readSpelling_eq_error_iff {e : String} :
    readSpelling refusal spellings s = .error e ↔
      (∀ a, readSpelling refusal spellings s ≠ .ok a) ∧ e = refusal ++ s := by
  unfold readSpelling
  cases spellings.lookup (Text.lower s) <;> simp [eq_comm]

end

theorem LogLevel.wellSpelled : WellSpelled LogLevel.spellings where
  distinct := by simp [spellings]
  small := by decide +kernel

theorem LogFormat.wellSpelled : WellSpelled LogFormat.spellings where
  distinct := by simp [spellings]
  small := by decide +kernel

/-- A level is read from its usual name, or as a warning from the long word. -/
theorem LogLevel.parse_eq_ok_iff {s : String} {level : LogLevel} :
    LogLevel.parse s = .ok level ↔
      SameButCase s level.name ∨ level = .warn ∧ SameButCase s "warning" := by
  rw [LogLevel.parse, readSpelling_eq_ok_iff wellSpelled]
  cases level <;> simp [spellings, name]

/-- A format is read from its usual name. -/
theorem LogFormat.parse_eq_ok_iff {s : String} {format : LogFormat} :
    LogFormat.parse s = .ok format ↔ SameButCase s format.name := by
  rw [LogFormat.parse, readSpelling_eq_ok_iff wellSpelled]
  cases format <;> simp [spellings, name]

end FormRules
