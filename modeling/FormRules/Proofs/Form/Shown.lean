import FormRules.Proofs.Form.Run
import Mathlib.Data.List.Forall2

/-!
# What is shown at a field

A field that the user has left, whose value has been written, and whose last check
failed shows one text for each of the failures that are stored, in their order.  Each
text is chosen by its code alone: the caller's own text wins over that of the table, and
a code without either is named by the fallback.  The rules of the field and its value
have no say in it.
-/

namespace FormRules

namespace MessageTable

/-- The text that a code is worded with. -/
inductive Words (t : MessageTable) (overrides : Option MessageTable) (code : Code) :
    String → Prop
  /-- The caller has a text of its own. -/
  | own {texts : MessageTable} {text : String} (hcaller : overrides = some texts)
      (hown : texts.get? code = some text) : Words t overrides code text
  /-- The caller has none, and the table has one. -/
  | listed {text : String} (hcaller : ∀ texts, overrides = some texts → texts.get? code = none)
      (hlisted : t.get? code = some text) : Words t overrides code text
  /-- Neither of them has one. -/
  | unlisted (hcaller : ∀ texts, overrides = some texts → texts.get? code = none)
      (hlisted : t.get? code = none) :
      Words t overrides code ("No message found for error " ++ code)

section

variable {t : MessageTable} {overrides : Option MessageTable} {code : Code} {text : String}

theorem override?_eq_none_iff :
    override? overrides code = none ↔ ∀ texts, overrides = some texts → texts.get? code = none := by
  cases overrides with
  | none => simp [override?]
  | some texts => simp [override?]

theorem resolve_of_override? (h : override? overrides code = some text) :
    t.resolve overrides code = text := by
  unfold resolve
  rw [h]

theorem resolve_of_override?_eq_none (h : override? overrides code = none) :
    t.resolve overrides code = (t.get? code).getD (fallback code) := by
  unfold resolve
  rw [h]

/-- Every code is worded in one way. -/
theorem words_iff : t.Words overrides code text ↔ text = t.resolve overrides code := by
  constructor
  · intro h
    cases h with
    | own hcaller hown =>
        have hoverride : override? overrides code = some text := by
          rw [hcaller]
          exact hown
        exact (resolve_of_override? hoverride).symm
    | listed hcaller hlisted =>
        rw [resolve_of_override?_eq_none (override?_eq_none_iff.2 hcaller), hlisted,
          Option.getD_some]
    | unlisted hcaller hlisted =>
        rw [resolve_of_override?_eq_none (override?_eq_none_iff.2 hcaller), hlisted,
          Option.getD_none]
        rfl
  · rintro rfl
    cases hoverride : override? overrides code with
    | some own =>
        obtain ⟨texts, hcaller, hown⟩ := Option.bind_eq_some_iff.1 hoverride
        rw [resolve_of_override? hoverride]
        exact .own hcaller hown
    | none =>
        have hcaller := override?_eq_none_iff.1 hoverride
        rw [resolve_of_override?_eq_none hoverride]
        cases hlisted : t.get? code with
        | some text => exact .listed hcaller hlisted
        | none => exact .unlisted hcaller hlisted

/-- The texts of some failures are the words for their codes, one for each. -/
theorem forall₂_words_iff {failures : FailureSet} {texts : List String} :
    List.Forall₂ (t.Words overrides) failures.codes texts ↔
      texts = t.resolveAll overrides failures := by
  have hwords : t.Words overrides = fun code text => t.resolve overrides code = text := by
    funext code text
    rw [eq_iff_iff, words_iff, eq_comm]
  rw [hwords, ← List.forall₂_map_left_iff, List.forall₂_eq_eq_eq, resolveAll, eq_comm]

end

end MessageTable

namespace FieldState

/-- The texts that are shown of a field are those of its failures, and there are such
texts when the field is touched, dirty and failing. -/
structure Displays (s : FieldState) (t : MessageTable) (overrides : Option MessageTable)
    (shown : Option (List String)) : Prop where
  isSome_iff : shown.isSome = true ↔
    s.touched = true ∧ s.dirty = true ∧ s.failures.codes ≠ []
  words : ∀ texts, shown = some texts →
    List.Forall₂ (t.Words overrides) s.failures.codes texts

/-- Two states with tables and texts of callers look alike when they differ at most in
their values and in texts for codes that are not stored. -/
structure LooksAlike (s s' : FieldState) (t t' : MessageTable)
    (overrides overrides' : Option MessageTable) : Prop where
  touched : s'.touched = s.touched
  dirty : s'.dirty = s.dirty
  failures : s'.failures = s.failures
  table : ∀ code ∈ s.failures.codes, t'.get? code = t.get? code
  caller : ∀ code ∈ s.failures.codes,
    MessageTable.override? overrides' code = MessageTable.override? overrides code

section

variable {s s' : FieldState} {t t' : MessageTable} {overrides overrides' : Option MessageTable}

theorem surface_eq (s : FieldState) : s.surface =
    if s.touched = true ∧ s.dirty = true ∧ s.failures.codes ≠ [] then some s.failures
    else none := by
  have hinvalid : s.invalid = true ↔ s.failures.codes ≠ [] := by
    rw [invalid, FailureSet.isEmpty, Bool.not_eq_true', Bool.eq_false_iff, Ne, List.isEmpty_iff]
  have hshown : (s.invalid && s.touched && s.dirty) = true ↔
      s.touched = true ∧ s.dirty = true ∧ s.failures.codes ≠ [] := by
    rw [Bool.and_eq_true, Bool.and_eq_true, hinvalid]
    tauto
  unfold surface
  exact if_congr hshown rfl rfl

theorem displays (s : FieldState) (t : MessageTable) (overrides : Option MessageTable) :
    s.Displays t overrides (s.surface.map (t.resolveAll overrides)) := by
  rw [surface_eq]
  split
  · next h =>
    refine ⟨by simpa using h, ?_⟩
    intro texts htexts
    rw [MessageTable.forall₂_words_iff]
    exact (Option.some.inj htexts).symm
  · next h =>
    refine ⟨by simpa using h, ?_⟩
    intro texts htexts
    contradiction

/-- What looks alike shows the same texts. -/
theorem LooksAlike.shown_eq (h : s.LooksAlike s' t t' overrides overrides') :
    s'.surface.map (t'.resolveAll overrides') = s.surface.map (t.resolveAll overrides) := by
  have hsurface : s'.surface = s.surface := by
    rw [surface_eq, surface_eq, h.touched, h.dirty, h.failures]
  have hwords : t'.resolveAll overrides' s.failures = t.resolveAll overrides s.failures := by
    apply List.map_congr_left
    intro code hcode
    unfold MessageTable.resolve
    rw [h.caller code hcode, h.table code hcode]
  rw [hsurface, surface_eq]
  split
  · rw [Option.map_some, Option.map_some, hwords]
  · rfl

end

end FieldState

namespace Registry

theorem errors_eq (r : Registry) (field : String) (overrides : Option MessageTable) :
    r.errors field overrides =
      (r.control? field).bind fun c => c.state.surface.map (r.messages.resolveAll overrides) := by
  unfold errors
  cases r.control? field with
  | none => rfl
  | some c => cases hsurface : c.state.surface <;> simp [hsurface]

/-- **What the user sees.**  Of any state, a table displays the words for its failures if
the state is touched, dirty and failing, and what looks alike is displayed alike.  A form
displays in this way the fields that it has and nothing else, whatever the rules of the
fields say of their values, and looking at it does not change it. -/
theorem failures_displayed :
    (∀ (s : FieldState) (t : MessageTable) (overrides : Option MessageTable),
      s.Displays t overrides (s.surface.map (t.resolveAll overrides)) ∧
      ∀ (s' : FieldState) (t' : MessageTable) (overrides' : Option MessageTable),
        s.LooksAlike s' t t' overrides overrides' →
        s'.surface.map (t'.resolveAll overrides') = s.surface.map (t.resolveAll overrides)) ∧
    ∀ (r : Registry) (field : String) (overrides : Option MessageTable),
      (r.control? field = none → r.errors field overrides = none) ∧
      (∀ c, r.control? field = some c →
        c.state.Displays r.messages overrides (r.errors field overrides) ∧
        ∀ (r' : Registry) (c' : Control) (overrides' : Option MessageTable),
          r'.control? field = some c' →
          c.state.LooksAlike c'.state r.messages r'.messages overrides overrides' →
          r'.errors field overrides' = r.errors field overrides) ∧
      r.step (.errors field overrides) = (.texts (r.errors field overrides), r) := by
  refine ⟨fun s t overrides => ⟨s.displays t overrides, fun s' t' overrides' h => h.shown_eq⟩, ?_⟩
  intro r field overrides
  refine ⟨?_, ?_, rfl⟩
  · intro hnone
    rw [errors_eq, hnone, Option.bind_none]
  · intro c hc
    have hshown : r.errors field overrides =
        c.state.surface.map (r.messages.resolveAll overrides) := by
      rw [errors_eq, hc, Option.bind_some]
    refine ⟨hshown ▸ c.state.displays r.messages overrides, ?_⟩
    intro r' c' overrides' hc' halike
    rw [hshown, errors_eq, hc', Option.bind_some]
    exact halike.shown_eq

end Registry

end FormRules
