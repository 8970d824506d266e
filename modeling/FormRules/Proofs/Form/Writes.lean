import FormRules.Proofs.Entries
import FormRules.Proofs.Form.Run
import FormRules.Proofs.Form.States

/-!
# Several writes in a row

Of several writes to one field the last one counts.  So writes to different
fields can be made in any order, and it does not matter whether the fields are
checked in between or not until the end.
-/

namespace FormRules

/-- Write a value, if there is one. -/
def FieldState.overwrite (value : Option Value) (s : FieldState) : FieldState :=
  value.elim s s.setValue

namespace Registry

/-- Write values to fields one after the other, checking each field as it is
written. -/
def setEach (r : Registry) (writes : List (String × Value)) : Except RuleError Registry :=
  writes.foldlM (fun r write => (r.setValue write.1 write.2).accepted) r

variable {r : Registry}

/-- Writes without checks leave at each field the last value written to it. -/
theorem writeAll_eq_mapStates (r : Registry) (writes : List (String × Value)) :
    r.writeAll writes = r.mapStates fun c => .overwrite (lastOf writes c.name) := by
  induction writes generalizing r with
  | nil =>
      rw [mapStates_eq_self]
      · rfl
      · intro c _
        rfl
  | cons write writes ih =>
      change (r.modify write.1 (.setValue write.2)).writeAll writes = _
      rw [ih, modify_eq_mapStates, mapStates_mapStates]
      apply mapStates_congr
      intro c _
      rw [lastOf_cons, Control.name_modify]
      -- A later write to the field hides this one.
      cases lastOf writes c.name with
      | some value => split <;> rfl
      | none =>
          by_cases h : write.1 = c.name
          · rw [if_pos h, if_pos h.symm]
            rfl
          · rw [if_neg h, if_neg (Ne.symm h)]
            rfl

/-- Writes that leave the same value at each field give the same form. -/
theorem writeAll_congr {writes writes' : List (String × Value)}
    (h : ∀ field, lastOf writes field = lastOf writes' field) :
    r.writeAll writes = r.writeAll writes' := by
  simp only [writeAll_eq_mapStates, h]

/-- Writing does not depend on the failures that are stored. -/
theorem withoutFailures_writeAll (writes : List (String × Value)) :
    (r.writeAll writes).withoutFailures = r.withoutFailures.writeAll writes := by
  rw [writeAll_eq_mapStates, writeAll_eq_mapStates, withoutFailures, withoutFailures,
    mapStates_mapStates, mapStates_mapStates]
  apply mapStates_congr
  intro c _
  rw [Control.name_modify]
  cases lastOf writes c.name <;> rfl

/-- Writes to fields of the form are all accepted, and they leave the form as if
nothing had been checked, failures apart. -/
theorem exists_setEach_eq_ok (writes : List (String × Value))
    (h : ∀ write ∈ writes, write.1 ∈ r.fields) :
    ∃ written, r.setEach writes = .ok written ∧
      written.withoutFailures = (r.writeAll writes).withoutFailures := by
  induction writes generalizing r with
  | nil => exact ⟨r, rfl, rfl⟩
  | cons write writes ih =>
      obtain ⟨failures, mid, hmid⟩ := exists_setValue_eq_ok (h write (by simp)) write.2
      obtain ⟨c, -, -, hstored⟩ := setValue_eq_ok hmid
      have hfields : mid.fields = r.fields := by
        rw [hstored, storeFailures, fields_modify, fields_modify]
      have hrest : ∀ later ∈ writes, later.1 ∈ mid.fields := by
        intro later hlater
        rw [hfields]
        exact h later (List.mem_cons_of_mem _ hlater)
      obtain ⟨written, hwritten, hsame⟩ := ih hrest
      refine ⟨written, ?_, ?_⟩
      · rw [setEach, List.foldlM_cons, hmid]
        exact hwritten
      · calc written.withoutFailures
            = mid.withoutFailures.writeAll writes := by rw [hsame, withoutFailures_writeAll]
          _ = (r.modify write.1 (.setValue write.2)).withoutFailures.writeAll writes := by
              rw [hstored, withoutFailures_storeFailures]
          _ = (r.writeAll (write :: writes)).withoutFailures := by
              rw [← withoutFailures_writeAll]
              rfl

end Registry

end FormRules
