import FormRules.Proofs.Rule.Codes

/-!
# The order of failures

A name may stand in a chain several times, with other arguments each time, and
some of these validators may pass where others fail.  The failures of a chain of
the standard rules list each name with a validator that fails, once, and in the
order of the first validator of the name that fails.  Where a name stands in the
chain before that makes no difference.
-/

namespace FormRules

/-- Does the value fail the validator? -/
def Validator.fails (v : Validator) (value : Value) (fields : Lookup) : Bool :=
  (v.validate value fields).isSome

section

variable (chain : List Validator) (value : Value) (fields : Lookup)

/-- The position of the first validator with a name that fails; the length of the
chain if there is none. -/
def firstFailure (rule : String) : Nat :=
  chain.findIdx fun v => v.rule == rule && v.fails value fields

/-- The codes are the names of the validators that fail, listed by the first
failure of each name. -/
structure FirstFailures (codes : List Code) : Prop where
  mem_iff : ∀ code, code ∈ codes ↔ ∃ v ∈ chain, v.rule = code ∧ v.fails value fields = true
  ordered : codes.Pairwise fun a b =>
    firstFailure chain value fields a < firstFailure chain value fields b
  sublist : codes.Sublist (chain.map Validator.rule)

end

section

variable {chain : List Validator} {value : Value} {fields : Lookup} {codes : List Code}
  {v : Validator}

/-- A standard validator that fails does so with its own name. -/
theorem Validator.validate_of_fails (hv : v.Standard) (h : v.fails value fields = true) :
    v.validate value fields = some v.rule := by
  obtain ⟨code, hcode⟩ := Option.isSome_iff_exists.1 h
  rw [hcode, v.eq_rule_of_validate hv hcode]

theorem Validator.validate_of_not_fails (h : v.fails value fields = false) :
    v.validate value fields = none := by
  simpa [fails] using h

theorem firstFailure_lt_length_iff {rule : String} :
    firstFailure chain value fields rule < chain.length ↔
      ∃ v ∈ chain, v.rule = rule ∧ v.fails value fields = true := by
  simp [firstFailure, List.findIdx_lt_length]

/-- A validator at the end of a chain does not change where names first failed. -/
theorem firstFailure_concat_of_lt {rule : String}
    (h : firstFailure chain value fields rule < chain.length) :
    firstFailure (chain ++ [v]) value fields rule = firstFailure chain value fields rule := by
  unfold firstFailure at h ⊢
  rw [List.findIdx_append, if_pos h]

/-- A name that has not failed before the end of a chain first fails at the end or
after it. -/
theorem length_le_firstFailure_concat {rule : String}
    (h : ¬ firstFailure chain value fields rule < chain.length) :
    chain.length ≤ firstFailure (chain ++ [v]) value fields rule := by
  unfold firstFailure at h ⊢
  rw [List.findIdx_append, if_neg h]
  exact Nat.le_add_left _ _

/-- One more validator adds its name if it fails and the name is new. -/
theorem codes_runChain_concat (hv : v.Standard) :
    (runChain (chain ++ [v]) value fields).codes =
      if v.fails value fields = true ∧ v.rule ∉ (runChain chain value fields).codes then
        (runChain chain value fields).codes ++ [v.rule]
      else
        (runChain chain value fields).codes := by
  rw [codes_runChain_append]
  cases hfails : v.fails value fields with
  | true =>
      have hlast : (runChain [v] value fields).codes = [v.rule] := by
        simp [runChain, v.validate_of_fails hv hfails, FailureSet.codes_ofList,
          List.eraseDups_cons]
      by_cases hknown : v.rule ∈ (runChain chain value fields).codes <;> simp [hlast, hknown]
  | false =>
      have hlast : (runChain [v] value fields).codes = [] := by
        simp [runChain, Validator.validate_of_not_fails hfails, FailureSet.codes_ofList]
      simp [hlast]

namespace FirstFailures

theorem nil : FirstFailures [] value fields [] where
  mem_iff := by simp
  ordered := .nil
  sublist := .slnil

/-- Names that are listed by their first failures are listed once. -/
theorem nodup (h : FirstFailures chain value fields codes) : codes.Nodup := by
  apply h.ordered.imp
  rintro a b hlt rfl
  exact hlt.false

/-- The names that are listed are those that first fail inside the chain. -/
theorem mem_iff_lt (h : FirstFailures chain value fields codes) (code : Code) :
    code ∈ codes ↔ firstFailure chain value fields code < chain.length := by
  rw [h.mem_iff, firstFailure_lt_length_iff]

/-- The order of the codes is not changed by one more validator. -/
theorem ordered_concat (h : FirstFailures chain value fields codes) :
    codes.Pairwise fun a b =>
      firstFailure (chain ++ [v]) value fields a < firstFailure (chain ++ [v]) value fields b := by
  apply h.ordered.imp_of_mem
  intro a b ha hb hlt
  rwa [firstFailure_concat_of_lt ((h.mem_iff_lt a).1 ha),
    firstFailure_concat_of_lt ((h.mem_iff_lt b).1 hb)]

/-- A validator that passes, or whose name has failed before, adds nothing. -/
theorem concat_of_known (h : FirstFailures chain value fields codes)
    (hv : v.fails value fields = true → v.rule ∈ codes) :
    FirstFailures (chain ++ [v]) value fields codes where
  mem_iff := by
    intro code
    rw [h.mem_iff]
    constructor
    · rintro ⟨w, hw, hfails⟩
      exact ⟨w, List.mem_append_left _ hw, hfails⟩
    · rintro ⟨w, hw, hrule, hfails⟩
      rcases List.mem_append.1 hw with hw | hw
      · exact ⟨w, hw, hrule, hfails⟩
      · obtain rfl := List.mem_singleton.1 hw
        exact hrule ▸ (h.mem_iff _).1 (hv hfails)
  ordered := h.ordered_concat
  sublist := by
    rw [List.map_append]
    exact h.sublist.trans (List.sublist_append_left _ _)

/-- The first validator of a name that fails adds its name at the end. -/
theorem concat_of_new (h : FirstFailures chain value fields codes)
    (hfails : v.fails value fields = true) (hnew : v.rule ∉ codes) :
    FirstFailures (chain ++ [v]) value fields (codes ++ [v.rule]) where
  mem_iff := by
    intro code
    rw [List.mem_append, List.mem_singleton, h.mem_iff]
    constructor
    · rintro (⟨w, hw, hw'⟩ | rfl)
      · exact ⟨w, List.mem_append_left _ hw, hw'⟩
      · exact ⟨v, List.mem_append_right _ List.mem_cons_self, rfl, hfails⟩
    · rintro ⟨w, hw, hrule, hw'⟩
      rcases List.mem_append.1 hw with hw | hw
      · exact .inl ⟨w, hw, hrule, hw'⟩
      · obtain rfl := List.mem_singleton.1 hw
        exact .inr hrule.symm
  ordered := by
    rw [List.pairwise_append]
    refine ⟨h.ordered_concat, List.pairwise_singleton _ _, ?_⟩
    intro a ha b hb
    obtain rfl := List.mem_singleton.1 hb
    -- The codes so far first fail inside the chain, and the new one does not.
    have hinside := (h.mem_iff_lt a).1 ha
    have hlast : ¬ firstFailure chain value fields v.rule < chain.length :=
      fun hlt => hnew ((h.mem_iff_lt _).2 hlt)
    rw [firstFailure_concat_of_lt hinside]
    exact hinside.trans_le (length_le_firstFailure_concat hlast)
  sublist := by
    rw [List.map_append]
    exact h.sublist.append_right _

end FirstFailures

/-- **The order of failures.**  The failures of a chain of standard validators are
the names that fail, in the order of their first failures. -/
theorem firstFailures_runChain (hchain : ∀ v ∈ chain, v.Standard) (value : Value)
    (fields : Lookup) : FirstFailures chain value fields (runChain chain value fields).codes := by
  -- A chain runs from the left, so the induction takes validators off its end.
  induction chain using List.reverseRecOn with
  | nil => exact .nil
  | append_singleton chain v ih =>
      have hbefore := ih fun w hw => hchain w (List.mem_append_left _ hw)
      rw [codes_runChain_concat (hchain v (List.mem_append_right _ List.mem_cons_self))]
      split
      · next hadds => exact hbefore.concat_of_new hadds.1 hadds.2
      · next hadds =>
          apply hbefore.concat_of_known
          intro hfails
          by_contra hnew
          exact hadds ⟨hfails, hnew⟩

end

end FormRules
