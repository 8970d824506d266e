import FormRules.Proofs.Form.Alike

/-!
# Resetting a form

A reset leaves each field with its name and its chain and nothing else, which is
how the field was declared.  So a form that is reset is the form on which its
last specifications are installed again, the count of installations apart, and
no later call can tell the two apart.
-/

namespace FormRules

/-- A field that is cleared is as its specification declares it. -/
theorem RuleSpec.Governs.declares_cleared {resolver : Resolver} {spec : RuleSpec} {c : Control}
    (h : spec.Governs resolver c) : spec.Declares resolver (c.modify fun _ => .fresh) :=
  ⟨h.name, h.chain, rfl, rfl, rfl, rfl⟩

namespace Registry

/-- The form with more installations counted. -/
def later (r : Registry) (n : Nat) : Registry :=
  { r with generation := r.generation + n }

variable {r r' : Registry} {resolver : Resolver} {installs : List (List RuleSpec)}

theorem alike_later (r : Registry) (n : Nat) : r.Alike (· = ·) n (r.later n) :=
  ⟨rfl, rfl, rfl, rfl⟩

/-- Forms with the same fields in the same order differ in the count at most. -/
theorem Alike.eq_later {n : Nat} (h : r.Alike (· = ·) n r') : r' = r.later n :=
  ext_controls h.resolver h.messages h.controls.symm h.generation

/-- Installing the last specifications again gives the form that a reset
gives. -/
theorem ShapedBy.install_again (h : r.ShapedBy resolver installs) :
    r.install (installs.getLast?.getD []) = ⟨.ok (r.reset.later 1).entries, r.reset.later 1⟩ := by
  have hdeclares : List.Forall₂ (RuleSpec.Declares resolver) (installs.getLast?.getD [])
      r.reset.controls := by
    rw [reset, controls_mapStates, List.forall₂_map_right_iff]
    exact h.governed.imp fun _ _ hgoverns => hgoverns.declares_cleared
  -- The names are still distinct because the form has them.
  apply install_eq_ok_iff.2
  rw [← h.fields_eq, h.resolver_eq]
  exact ⟨r.distinct, hdeclares, rfl, rfl, h.resolver_eq⟩

/-- After any run of operations on a new form, also on its fields past the checks
of the form, a reset gives the form on which the specifications of the last
accepted installation are installed again, but for one installation that is not
counted.  Every run of operations after that gives the same answers on both
forms, and they go on to differ in that count only. -/
theorem reset_as_reinstall (factory : Factory) (messages : MessageTable)
    (ops : List Operation) :
    let start := create factory messages
    let r := start.runBy operate ops
    let specs := ((start.history operate ops).filterMap Operation.installed?).getLast?.getD []
    ∃ again, r.install specs = ⟨.ok again.entries, again⟩ ∧ again = r.reset.later 1 ∧
      ∀ more : List Operation,
        again.history operate more = r.reset.history operate more ∧
          again.runBy operate more = (r.reset.runBy operate more).later 1 := by
  intro start r specs
  refine ⟨r.reset.later 1, (shapedBy_history factory messages ops).install_again, rfl, ?_⟩
  intro more
  obtain ⟨hanswers, hend⟩ := (alike_later r.reset 1).run arrangement_eq more
  exact ⟨hanswers, hend.eq_later⟩

end Registry

end FormRules
