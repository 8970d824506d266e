import FormRules.Proofs.Rule.Grammar

/-!
# Canonical tokens

A token is canonical when it can be written into a rule string and read back.
Every token that is read is canonical, and the rule string of canonical tokens
is read as these tokens, so writing and reading are inverse to each other on
exactly the canonical tokens.
-/

namespace FormRules.Token

open Text

/-- The tokens that a rule string can hold: a name that is not empty, has no
blank at an end and no separator; with an argument, no bracket in the name and
neither a bracket nor a separator in the argument; without one, not both
brackets in the name. -/
structure Canonical (t : Token) : Prop where
  named : t.name ≠ ""
  trimmed : trimText t.name = t.name
  separated : separator ∉ t.name.toList
  plain : t.argument = none → ¬ Bracketed t.name.toList
  bracketed : ∀ argument, t.argument = some argument →
    Bare t.name.toList ∧ Bare argument.toList ∧ separator ∉ argument.toList

/-- The rule string of some tokens. -/
def joined (tokens : List Token) : String :=
  "|".intercalate (tokens.map display)

theorem toList_display_some (name argument : String) :
    (display ⟨name, some argument⟩).toList =
      name.toList ++ '[' :: (argument.toList ++ [']']) := by
  simp [display]

theorem toList_joined (tokens : List Token) :
    (joined tokens).toList =
      [separator].intercalate (tokens.map fun t => t.display.toList) := by
  rw [joined, String.toList_intercalate, List.map_map]
  rfl

theorem trim_toList_of_trimText {s : String} (h : trimText s = s) : trim s.toList = s.toList := by
  have := congrArg String.toList h
  rwa [trimText, String.toList_ofList] at this

/-- A token that is read from a trimmed piece without a separator is
canonical. -/
theorem Reads.canonical {piece : List Char} {t : Token} (h : Reads piece t)
    (htrim : trim piece = piece) (hseparator : separator ∉ piece) : t.Canonical := by
  cases h with
  | plain hne hlacks =>
      exact {
        named := by simpa using hne
        trimmed := by rw [trimText, String.toList_ofList, htrim]
        separated := by simpa using hseparator
        plain := by
          rintro - ⟨hopening, hclosing⟩
          simp only [String.toList_ofList] at hopening hclosing
          simp [hopening, hclosing] at hlacks
        bracketed := by simp }
  | @bracketed before inside hbefore hinside hname =>
      simp only [List.mem_append, List.mem_cons, not_or] at hseparator
      have hsubset : trim before ⊆ before := (trim_isInfix before).subset
      exact {
        named := by simpa using mt (trim_eq_nil_iff before).1 hname
        trimmed := by rw [trimText, String.toList_ofList, trim_trim]
        separated := by
          rw [String.toList_ofList]
          exact fun hmem => hseparator.1 (hsubset hmem)
        plain := by simp
        bracketed := by
          rintro argument hargument
          rw [← Option.some.inj hargument, String.toList_ofList, String.toList_ofList]
          exact ⟨hbefore.mono hsubset, hinside, hseparator.2.2.1⟩ }

/-- Every token that is read is canonical. -/
theorem canonical_of_parseAll {rules : Option String} {tokens : List Token}
    (h : parseAll rules = .ok tokens) : ∀ t ∈ tokens, t.Canonical := by
  intro t ht
  cases rules with
  | none =>
      rw [parseAll, Except.ok.injEq] at h
      simp [← h] at ht
  | some rules =>
      by_cases hblank : AllBlank rules.toList
      · rw [parseAll_of_allBlank hblank, Except.ok.injEq] at h
        simp [← h] at ht
      · rw [parseAll_of_not_allBlank hblank] at h
        have hread := Traversal.mapM_eq_ok_iff.1 h
        obtain ⟨piece, hpiece, ht⟩ := Traversal.exists_mem_of_forall₂ hread ht
        obtain ⟨cs, hcs, rfl⟩ := List.mem_map.1 hpiece
        have hseparator : separator ∉ trim cs := fun hmem =>
          separator_notMem_of_mem_splitOn hcs (mem_of_mem_trim hmem)
        exact ((readPiece_eq_ok_iff _ _).1 ht).canonical (trim_trim cs) hseparator

namespace Canonical

variable {t : Token}

theorem name_ne_nil (h : t.Canonical) : t.name.toList ≠ [] := by
  simpa using h.named

theorem display_ne_nil (h : t.Canonical) : t.display.toList ≠ [] := by
  obtain ⟨name, argument⟩ := t
  cases argument with
  | none => exact h.name_ne_nil
  | some argument => simp [toList_display_some]

/-- A canonical token is written without a separator. -/
theorem separator_notMem_display (h : t.Canonical) : separator ∉ t.display.toList := by
  obtain ⟨name, argument⟩ := t
  cases argument with
  | none => exact h.separated
  | some argument =>
      have hargument := (h.bracketed argument rfl).2.2
      have hname := h.separated
      rw [toList_display_some]
      simp [hname, hargument, show separator ≠ '[' by decide, show separator ≠ ']' by decide]

/-- A canonical token is written without a blank at an end. -/
theorem trim_display (h : t.Canonical) : trim t.display.toList = t.display.toList := by
  obtain ⟨name, argument⟩ := t
  have hname := trim_toList_of_trimText h.trimmed
  cases argument with
  | none => exact hname
  | some argument =>
      rw [toList_display_some]
      refine (trim_eq_self_iff _).2 ⟨fun c hc => ?_, fun c hc => ?_⟩
      · -- The text starts as the name does, and it ends with a bracket.
        rw [List.head?_append_of_ne_nil _ h.name_ne_nil] at hc
        exact ((trim_eq_self_iff _).1 hname).1 c hc
      · rw [← List.cons_append, ← List.append_assoc, List.getLast?_concat] at hc
        rw [← Option.some.inj hc]
        decide

/-- A canonical token is read from what it is written as. -/
theorem reads_display (h : t.Canonical) : Reads t.display.toList t := by
  obtain ⟨name, argument⟩ := t
  cases argument with
  | none =>
      have hread := Reads.plain h.name_ne_nil (not_and_or.1 (h.plain rfl))
      rwa [String.ofList_toList] at hread
  | some argument =>
      obtain ⟨hbare, hargument, -⟩ := h.bracketed argument rfl
      have hname := trim_toList_of_trimText h.trimmed
      have hblank : ¬ AllBlank name.toList := by
        rw [← trim_eq_nil_iff, hname]
        exact h.name_ne_nil
      have hread := Reads.bracketed hbare hargument hblank
      rwa [hname, String.ofList_toList, String.ofList_toList, ← toList_display_some] at hread

end Canonical

section

variable {tokens : List Token}

theorem trim_joined (h : ∀ t ∈ tokens, t.Canonical) :
    trim (joined tokens).toList = (joined tokens).toList := by
  rw [toList_joined]
  apply trim_intercalate
  · intro text htext
    obtain ⟨t, ht, rfl⟩ := List.mem_map.1 htext
    exact (h t ht).display_ne_nil
  · intro text htext
    obtain ⟨t, ht, rfl⟩ := List.mem_map.1 htext
    exact (h t ht).trim_display

/-- The pieces of the rule string of canonical tokens are the texts of the
tokens. -/
theorem pieces_joined (h : ∀ t ∈ tokens, t.Canonical) (hne : tokens ≠ []) :
    pieces (joined tokens) = tokens.map fun t => t.display.toList := by
  have hsplit : (joined tokens).toList.splitOn separator =
      tokens.map fun t => t.display.toList := by
    rw [toList_joined]
    apply List.splitOn_intercalate
    · intro text htext
      obtain ⟨t, ht, rfl⟩ := List.mem_map.1 htext
      exact (h t ht).separator_notMem_display
    · simpa using hne
  rw [pieces, trim_joined h, hsplit, List.map_map]
  exact List.map_congr_left fun t ht => (h t ht).trim_display

theorem not_allBlank_joined (h : ∀ t ∈ tokens, t.Canonical) (hne : tokens ≠ []) :
    ¬ AllBlank (joined tokens).toList := by
  rw [← trim_eq_nil_iff, trim_joined h]
  intro hnil
  cases tokens with
  | nil => exact hne rfl
  | cons first rest =>
      have hfirst := (h first (by simp)).display_ne_nil
      rw [toList_joined, List.map_cons] at hnil
      have hhead := head?_intercalate_cons hfirst [separator]
        (rest.map fun t => t.display.toList)
      rw [hnil] at hhead
      exact hfirst (List.head?_eq_none_iff.1 hhead.symm)

/-- The rule string of canonical tokens is read as these tokens. -/
theorem parseAll_joined (h : ∀ t ∈ tokens, t.Canonical) :
    parseAll (some (joined tokens)) = .ok tokens := by
  by_cases hne : tokens = []
  · subst hne
    rfl
  · rw [parseAll_of_not_allBlank (not_allBlank_joined h hne), pieces_joined h hne,
      Traversal.mapM_eq_ok_iff, List.forall₂_map_left_iff, List.forall₂_same]
    intro t ht
    exact (readPiece_eq_ok_iff _ _).2 (h t ht).reads_display

end

/-- Writing tokens into a rule string and reading it back gives the same tokens
exactly when all of them are canonical.  The tokens of any rule string that is
accepted are canonical, so writing them and reading them again changes
nothing. -/
theorem parseAll_joined_eq_ok_iff_canonical :
    (∀ tokens : List Token,
      parseAll (some (joined tokens)) = .ok tokens ↔ ∀ t ∈ tokens, t.Canonical) ∧
    ∀ (rules : Option String) (tokens : List Token), parseAll rules = .ok tokens →
      (∀ t ∈ tokens, t.Canonical) ∧ parseAll (some (joined tokens)) = .ok tokens := by
  refine ⟨fun tokens => ⟨canonical_of_parseAll, parseAll_joined⟩, fun rules tokens h => ?_⟩
  have hcanonical := canonical_of_parseAll h
  exact ⟨hcanonical, parseAll_joined hcanonical⟩

end FormRules.Token
