/-!
# Failure codes

A failed check leaves a code, the name of what failed.  The failures of a
field are a set of codes in the order in which they first arose.
-/

namespace FormRules

/-- The code of a failed check. -/
abbrev Code := String

/-- Codes without repetition, in the order of their first insertion. -/
structure FailureSet where
  codes : List Code
  nodup : codes.Nodup := by simp
  deriving DecidableEq

namespace FailureSet

/-- The set without failures. -/
def empty : FailureSet := ⟨[], List.nodup_nil⟩

instance : Inhabited FailureSet := ⟨empty⟩

/-- Is this code among the failures? -/
def contains (s : FailureSet) (code : Code) : Bool :=
  decide (code ∈ s.codes)

/-- Add a code at the end unless it is there already, and say whether it was
added. -/
def tryInsert (s : FailureSet) (code : Code) : Bool × FailureSet :=
  if h : code ∈ s.codes then
    (false, s)
  else
    (true, ⟨s.codes ++ [code], by
      rw [List.nodup_append]
      refine ⟨s.nodup, by simp, ?_⟩
      intro a ha b hb
      rw [List.mem_singleton] at hb
      rintro rfl
      exact h (hb ▸ ha)⟩)

/-- Add a code at the end unless it is there already. -/
def insert (s : FailureSet) (code : Code) : FailureSet := (s.tryInsert code).2

/-- Collect codes in order, leaving out what is there already. -/
def ofList (codes : List Code) : FailureSet :=
  codes.foldl insert empty

/-- The codes in order. -/
def toList (s : FailureSet) : List Code := s.codes

/-- The number of failures. -/
def size (s : FailureSet) : Nat := s.codes.length

/-- Is there no failure? -/
def isEmpty (s : FailureSet) : Bool := s.codes.isEmpty

theorem ext {a b : FailureSet} (h : a.codes = b.codes) : a = b := by
  cases a
  cases b
  simp_all

@[simp] theorem codes_empty : empty.codes = [] := rfl

theorem isEmpty_iff {s : FailureSet} : s.isEmpty = true ↔ s = .empty := by
  unfold isEmpty
  rw [List.isEmpty_iff]
  exact ⟨fun h => ext h, fun h => h ▸ rfl⟩

theorem codes_insert (s : FailureSet) (code : Code) :
    (s.insert code).codes = if code ∈ s.codes then s.codes else s.codes ++ [code] := by
  unfold insert tryInsert
  split <;> rfl

@[simp] theorem contains_eq_true_iff (s : FailureSet) (code : Code) :
    s.contains code = true ↔ code ∈ s.codes := by
  simp [contains]

end FailureSet

end FormRules
