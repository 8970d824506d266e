import FormRules.Text.Blank
import Mathlib.Data.List.DropRight

/-!
# Trimmed texts and cut texts

Trimming removes blank characters at the two ends and nothing else.  A text is
its own trim exactly when neither of its ends is blank, so a trimmed text stays
as it is when it is trimmed again.  Cutting a text at a separator is undone by
joining the pieces with the separator.
-/

namespace FormRules.Text

/-- A text all of whose characters are blank. -/
def AllBlank (cs : List Char) : Prop := ∀ c ∈ cs, isBlank c = true

instance : DecidablePred AllBlank := fun cs =>
  decidable_of_iff (cs.all isBlank = true) List.all_eq_true

theorem trimRight_eq_rdropWhile (cs : List Char) : trimRight cs = cs.rdropWhile isBlank := rfl

/-- The trim of a text is a part of it that hangs together. -/
theorem trim_isInfix (cs : List Char) : trim cs <:+: cs := by
  have hprefix : trim cs <+: trimLeft cs := List.rdropWhile_prefix isBlank _
  have hsuffix : trimLeft cs <:+ cs := List.dropWhile_suffix isBlank
  exact hprefix.isInfix.trans hsuffix.isInfix

theorem mem_of_mem_trim {c : Char} {cs : List Char} (h : c ∈ trim cs) : c ∈ cs :=
  (trim_isInfix cs).subset h

theorem isBlank_head_trimLeft {c : Char} {cs : List Char} (h : (trimLeft cs).head? = some c) :
    isBlank c = false := by
  have hhead := List.head?_dropWhile_not isBlank cs
  unfold trimLeft at h
  rw [h] at hhead
  simpa using hhead

/-- A trimmed text starts with no blank character. -/
theorem isBlank_head_trim {c : Char} {cs : List Char} (h : (trim cs).head? = some c) :
    isBlank c = false := by
  have hprefix : trim cs <+: trimLeft cs := List.rdropWhile_prefix isBlank _
  obtain ⟨tail, htail⟩ := hprefix
  have hhead : (trimLeft cs).head? = some c := by
    rw [← htail, List.head?_append, h]
    rfl
  exact isBlank_head_trimLeft hhead

/-- A trimmed text ends with no blank character. -/
theorem isBlank_getLast_trim {c : Char} {cs : List Char} (h : (trim cs).getLast? = some c) :
    isBlank c = false := by
  have hne : (trimLeft cs).rdropWhile isBlank ≠ [] := by
    intro hnil
    rw [trim, trimRight_eq_rdropWhile, hnil] at h
    simp at h
  have hlast := List.rdropWhile_last_not isBlank (trimLeft cs) hne
  rw [trim, trimRight_eq_rdropWhile, List.getLast?_eq_some_getLast hne] at h
  rw [Option.some.inj h] at hlast
  simpa using hlast

/-- A text is its own trim exactly when no end of it is blank. -/
theorem trim_eq_self_iff (cs : List Char) :
    trim cs = cs ↔
      (∀ c, cs.head? = some c → isBlank c = false) ∧
        ∀ c, cs.getLast? = some c → isBlank c = false := by
  constructor
  · intro h
    rw [← h]
    exact ⟨fun _ => isBlank_head_trim, fun _ => isBlank_getLast_trim⟩
  · rintro ⟨hhead, hlast⟩
    have hleft : trimLeft cs = cs := by
      cases cs with
      | nil => rfl
      | cons c rest => exact List.dropWhile_cons_of_neg (by simp [hhead c rfl])
    rw [trim, hleft, trimRight_eq_rdropWhile, List.rdropWhile_eq_self_iff]
    intro hne
    simp [hlast _ (List.getLast?_eq_some_getLast hne)]

@[simp] theorem trim_trim (cs : List Char) : trim (trim cs) = trim cs :=
  (trim_eq_self_iff _).2 ⟨fun _ => isBlank_head_trim, fun _ => isBlank_getLast_trim⟩

/-- Only a blank text has an empty trim. -/
theorem trim_eq_nil_iff (cs : List Char) : trim cs = [] ↔ AllBlank cs := by
  rw [trim, trimRight_eq_rdropWhile, List.rdropWhile_eq_nil_iff]
  constructor
  · intro h
    have hnil : trimLeft cs = [] := by
      cases hleft : trimLeft cs with
      | nil => rfl
      | cons c rest =>
          have hblank : isBlank c = true := h c (by simp [hleft])
          have hhead : (trimLeft cs).head? = some c := by simp [hleft]
          have hnot : isBlank c = false := isBlank_head_trimLeft hhead
          simp [hblank] at hnot
    exact List.dropWhile_eq_nil_iff.1 hnil
  · intro h c hc
    exact h c ((List.dropWhile_suffix isBlank).subset hc)

theorem not_mem_of_allBlank {c : Char} {cs : List Char} (h : AllBlank cs)
    (hc : isBlank c = false) : c ∉ cs := by
  intro hmem
  have := h c hmem
  simp [hc] at this

/-- Blanks before a text are trimmed away. -/
theorem trim_append_of_allBlank_left {blanks : List Char} (h : AllBlank blanks) (cs : List Char) :
    trim (blanks ++ cs) = trim cs := by
  rw [trim, trimLeft, List.dropWhile_append_of_pos h]
  rfl

/-- Blanks after a text are trimmed away. -/
theorem trim_append_of_allBlank_right {blanks : List Char} (h : AllBlank blanks)
    (cs : List Char) : trim (cs ++ blanks) = trim cs := by
  by_cases hcs : AllBlank cs
  · rw [trim_append_of_allBlank_left hcs, (trim_eq_nil_iff _).2 h, (trim_eq_nil_iff _).2 hcs]
  · have hleft : (cs.dropWhile isBlank).isEmpty = false := by
      rw [List.isEmpty_eq_false_iff]
      exact fun hnil => hcs (List.dropWhile_eq_nil_iff.1 hnil)
    rw [trim, trimLeft, List.dropWhile_append, hleft]
    simp only [Bool.false_eq_true, if_false]
    rw [trimRight, List.reverse_append,
      List.dropWhile_append_of_pos (fun c hc => h c (List.mem_reverse.1 hc))]
    rfl

/-- A text is its trim between blanks. -/
theorem exists_eq_append_trim (cs : List Char) :
    ∃ before after, cs = before ++ (trim cs ++ after) ∧ AllBlank before ∧ AllBlank after := by
  refine ⟨cs.takeWhile isBlank, (trimLeft cs).rtakeWhile isBlank, ?_, ?_, ?_⟩
  · rw [trim, trimRight_eq_rdropWhile, List.rdropWhile_append_rtakeWhile, trimLeft,
      List.takeWhile_append_dropWhile]
  · exact fun _ => List.mem_takeWhile_imp
  · exact fun _ => List.mem_rtakeWhile_imp

/-- Cutting a text is splitting it at the separator. -/
theorem cut_eq_splitOn (separator : Char) (cs : List Char) :
    cut separator cs = cs.splitOn separator := by
  induction cs with
  | nil => rfl
  | cons c rest ih =>
      rw [cut, List.splitOn_cons_eq_if_modifyHead, ih]
      by_cases hc : c = separator
      · simp [hc]
      · simp only [hc, if_false, beq_iff_eq]
        cases hsplit : rest.splitOn separator with
        | nil => exact absurd hsplit (List.splitOn_ne_nil separator rest)
        | cons piece pieces => rfl

/-- No piece of a text that is cut holds the separator. -/
theorem separator_notMem_of_mem_splitOn {separator : Char} {cs piece : List Char}
    (h : piece ∈ cs.splitOn separator) : separator ∉ piece := by
  induction cs generalizing piece with
  | nil => simp_all
  | cons c rest ih =>
      rw [List.splitOn_cons_eq_if_modifyHead] at h
      by_cases hc : c = separator
      · simp only [hc, beq_self_eq_true, if_true, List.mem_cons] at h
        rcases h with rfl | h
        · simp
        · exact ih h
      · cases hsplit : rest.splitOn separator with
        | nil => exact absurd hsplit (List.splitOn_ne_nil separator rest)
        | cons first others =>
            rw [hsplit] at h ih
            simp only [beq_iff_eq, hc, if_false, List.modifyHead_cons, List.mem_cons] at h
            rcases h with rfl | h
            · have hfirst : separator ∉ first := ih (by simp)
              simp [hfirst, Ne.symm hc]
            · exact ih (by simp [h])

theorem head?_intercalate_cons {piece : List Char} (hne : piece ≠ []) (separator : List Char)
    (pieces : List (List Char)) :
    (separator.intercalate (piece :: pieces)).head? = piece.head? := by
  cases piece with
  | nil => exact absurd rfl hne
  | cons c piece =>
      rw [List.intercalate_cons_cons_left]
      rfl

theorem getLast?_intercalate {separator : List Char} {pieces : List (List Char)}
    (hne : ∀ piece ∈ pieces, piece ≠ []) {c : Char}
    (h : (separator.intercalate pieces).getLast? = some c) :
    ∃ piece ∈ pieces, piece.getLast? = some c := by
  induction pieces with
  | nil => simp at h
  | cons piece rest ih =>
      cases rest with
      | nil => exact ⟨piece, by simp, by simpa using h⟩
      | cons next rest =>
          have hrest : separator.intercalate (next :: rest) ≠ [] := by
            intro hnil
            have hhead := head?_intercalate_cons (hne next (by simp)) separator rest
            rw [hnil] at hhead
            exact hne next (by simp) (List.head?_eq_none_iff.1 hhead.symm)
          rw [List.intercalate_cons_cons, List.getLast?_append_of_ne_nil _ hrest] at h
          obtain ⟨last, hmem, hlast⟩ := ih (fun piece hp => hne piece (by simp [hp])) h
          exact ⟨last, List.mem_cons_of_mem _ hmem, hlast⟩

/-- Pieces with no blank at an end are joined to a text with no blank at an
end. -/
theorem trim_intercalate {separator : List Char} {pieces : List (List Char)}
    (hne : ∀ piece ∈ pieces, piece ≠ []) (htrim : ∀ piece ∈ pieces, trim piece = piece) :
    trim (separator.intercalate pieces) = separator.intercalate pieces := by
  refine (trim_eq_self_iff _).2 ⟨fun c hc => ?_, fun c hc => ?_⟩
  · cases pieces with
    | nil => simp at hc
    | cons piece rest =>
        rw [head?_intercalate_cons (hne piece (by simp))] at hc
        exact ((trim_eq_self_iff piece).1 (htrim piece (by simp))).1 c hc
  · obtain ⟨last, hmem, hlast⟩ := getLast?_intercalate hne hc
    exact ((trim_eq_self_iff last).1 (htrim last hmem)).2 c hlast

section

variable {separator : Char} {blanks : List Char}

/-- Blanks before a text belong to the first piece, where they do not count. -/
theorem map_trim_splitOn_append_left (h : isBlank separator = false) (hblanks : AllBlank blanks)
    (cs : List Char) :
    ((blanks ++ cs).splitOn separator).map trim = (cs.splitOn separator).map trim := by
  have hseparator := not_mem_of_allBlank hblanks h
  by_cases hmem : separator ∈ cs
  · obtain ⟨first, rest, rfl, hfirst⟩ := List.eq_append_cons_of_mem hmem
    have hpiece : separator ∉ blanks ++ first := by simp [hseparator, hfirst]
    rw [← List.append_assoc, List.splitOn_append_cons_self, List.splitOn_append_cons_self,
      List.splitOn_eq_singleton hpiece, List.splitOn_eq_singleton hfirst, List.map_append,
      List.map_append, List.map_singleton, List.map_singleton,
      trim_append_of_allBlank_left hblanks]
  · have hpiece : separator ∉ blanks ++ cs := by simp [hseparator, hmem]
    rw [List.splitOn_eq_singleton hpiece, List.splitOn_eq_singleton hmem, List.map_singleton,
      List.map_singleton, trim_append_of_allBlank_left hblanks]

/-- Blanks after a text belong to the last piece, where they do not count. -/
theorem map_trim_splitOn_append_right (h : isBlank separator = false)
    (hblanks : AllBlank blanks) (cs : List Char) :
    ((cs ++ blanks).splitOn separator).map trim = (cs.splitOn separator).map trim := by
  have hseparator := not_mem_of_allBlank hblanks h
  by_cases hmem : separator ∈ cs
  · -- The last separator is the first one from behind.
    obtain ⟨last, rest, hsplit, hlast⟩ := List.eq_append_cons_of_mem (List.mem_reverse.2 hmem)
    obtain rfl : cs = rest.reverse ++ separator :: last.reverse := by
      rw [← List.reverse_reverse cs, hsplit]
      simp
    have hlast' : separator ∉ last.reverse := by simpa using hlast
    have hpiece : separator ∉ last.reverse ++ blanks := by simp [hseparator, hlast]
    rw [List.append_assoc, List.cons_append, List.splitOn_append_cons_self,
      List.splitOn_append_cons_self, List.splitOn_eq_singleton hpiece,
      List.splitOn_eq_singleton hlast', List.map_append, List.map_append, List.map_singleton,
      List.map_singleton, trim_append_of_allBlank_right hblanks]
  · have hpiece : separator ∉ cs ++ blanks := by simp [hseparator, hmem]
    rw [List.splitOn_eq_singleton hpiece, List.splitOn_eq_singleton hmem, List.map_singleton,
      List.map_singleton, trim_append_of_allBlank_right hblanks]

/-- The trimmed pieces of a text are those of its trim. -/
theorem map_trim_splitOn_trim (h : isBlank separator = false) (cs : List Char) :
    ((trim cs).splitOn separator).map trim = (cs.splitOn separator).map trim := by
  obtain ⟨before, after, hcs, hbefore, hafter⟩ := exists_eq_append_trim cs
  conv_rhs => rw [hcs]
  rw [map_trim_splitOn_append_left h hbefore, map_trim_splitOn_append_right h hafter]

end

end FormRules.Text
