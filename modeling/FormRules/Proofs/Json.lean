import FormRules.Proofs.Number.Finite
import FormRules.Value

/-!
# Values and JSON documents

There are two ways to read a value from a JSON document, by the kind of the document and
by trying the kinds of values in turn.  They read the same documents to the same values.
What they read is never an infinity and always a number where it should be one, since
whole numbers become finite doubles.  So a value that is written comes back as it was,
unless JSON cannot hold it.
-/

namespace FormRules

namespace Json

/-- Lists and objects, empty or not. -/
inductive Composite : Json → Prop
  | array (items : List Json) : Composite (.array items)
  | object (members : List (String × Json)) : Composite (.object members)

namespace Numeral

/-- Whatever way a number of JSON is held, the double nearest to it is finite. -/
theorem isFinite_toFloat {n : Numeral} (h : n.isValid = true) : n.toFloat.isFinite = true := by
  cases n with
  | natural n => exact Number.isFinite_toFloat n
  | negative n => exact Number.isFinite_neg (Number.isFinite_toFloat n)
  | decimal x => exact h

end Numeral

theorem ofFloat_of_isFinite {x : Float} (h : x.isFinite = true) :
    ofFloat x = .number (.decimal x) h :=
  dif_pos h

theorem ofFloat_of_not_isFinite {x : Float} (h : x.isFinite = false) : ofFloat x = .null :=
  dif_neg (by rw [Numeral.isValid, h]; decide)

end Json

namespace Value

/-- The kinds of values do not overlap in JSON, so the order in which they are tried does
not matter. -/
theorem decode?_eq_ofJson? (j : Json) : decode? j = ofJson? j := by
  cases j with
  | null => rfl
  | bool b => rfl
  | number n h =>
      -- the two kinds that are tried before numbers refuse, whatever way it is held
      cases n with
      | natural n => rfl
      | negative n => rfl
      | decimal x => rfl
  | string s => rfl
  | array items => rfl
  | object members => rfl

theorem ofJson?_eq_none_iff_composite {j : Json} : ofJson? j = none ↔ j.Composite := by
  constructor
  · intro h
    cases j with
    | array items => exact .array items
    | object members => exact .object members
    | null | bool | number | string => cases h
  · rintro (items | members)
    · rfl
    · rfl

theorem isFinite_of_ofJson? {j : Json} {x : Float} (h : ofJson? j = some (number x)) :
    x.isFinite = true := by
  cases j with
  | number n hvalid =>
      cases h
      exact Json.Numeral.isFinite_toFloat hvalid
  | null | bool | string | array | object => cases h

theorem ofJson?_toJson {value : Value} (h : ∀ x, value = number x → x.isFinite = true) :
    ofJson? value.toJson = some value := by
  cases value with
  | null => rfl
  | bool b => rfl
  | text s => rfl
  | number x =>
      rw [toJson, Json.ofFloat_of_isFinite (h x rfl)]
      rfl

/-- **Values in JSON.**  The two ways of reading a document give the same value, and both
refuse lists and objects and nothing else; a number that is read is finite.  A value that
is written and read again is the same value, down to the sign of a zero, but what is
infinite or no number comes back as nothing. -/
theorem values_through_json :
    (∀ j value, ofJson? j = some value ↔ decode? j = some value) ∧
    (∀ j, (ofJson? j = none ↔ j.Composite) ∧ (decode? j = none ↔ j.Composite)) ∧
    (∀ j x, ofJson? j = some (number x) → x.isFinite = true ∧ x.isNaN = false) ∧
    (∀ value : Value, (∀ x, value = number x → x.isFinite = true) →
      ofJson? value.toJson = some value ∧ decode? value.toJson = some value) ∧
    (∀ x : Float, x.isNaN = true ∨ x.isInf = true →
      ofJson? (number x).toJson = some null ∧ decode? (number x).toJson = some null) := by
  refine ⟨fun j value => ?_, fun j => ?_, fun j x h => ?_, fun value h => ?_, fun x h => ?_⟩
  · rw [decode?_eq_ofJson?]
  · have hrefused := @ofJson?_eq_none_iff_composite j
    exact ⟨hrefused, (decode?_eq_ofJson? j).symm ▸ hrefused⟩
  · have hfinite := isFinite_of_ofJson? h
    have hnumber : ¬ x.isNaN = true := fun hnan => by
      rw [Number.isFinite_eq_false_iff.2 (.inl hnan)] at hfinite
      cases hfinite
    exact ⟨hfinite, Bool.eq_false_iff.2 hnumber⟩
  · have hback := ofJson?_toJson h
    exact ⟨hback, (decode?_eq_ofJson? _).trans hback⟩
  · have hnull : (number x).toJson = .null :=
      Json.ofFloat_of_not_isFinite (Number.isFinite_eq_false_iff.2 h)
    rw [hnull]
    exact ⟨rfl, rfl⟩

/-- The two zeros are written apart. -/
example : ofJson? (number (-0)).toJson = some (number (-0)) ∧ number (-0) ≠ number 0 := by
  refine ⟨ofJson?_toJson fun x h => ?_, fun h => ?_⟩
  · cases h
    rfl
  · have hbits := congrArg Float.toBits (Value.number.inj h)
    exact absurd hbits (by decide)

end Value

end FormRules
