import Mathlib.Data.List.Forall2

/-!
# Lists of outcomes

A list is read item by item, and the first item that cannot be read ends the
reading with its error.  The two equivalences say when such a reading succeeds
and which error it gives.
-/

namespace FormRules.Traversal

variable {α β ε : Type} {f : α → Except ε β}

theorem map_eq_ok_iff {x : Except ε α} {g : α → β} {b : β} :
    x.map g = .ok b ↔ ∃ a, x = .ok a ∧ g a = b := by
  cases x <;> simp [Except.map]

theorem map_eq_error_iff {x : Except ε α} {g : α → β} {e : ε} :
    x.map g = .error e ↔ x = .error e := by
  cases x <;> simp [Except.map]

theorem mapError_eq_ok_iff {ε' : Type} {x : Except ε α} {g : ε → ε'} {a : α} :
    x.mapError g = .ok a ↔ x = .ok a := by
  cases x <;> simp [Except.mapError]

theorem mapError_eq_error_iff {ε' : Type} {x : Except ε α} {g : ε → ε'} {e' : ε'} :
    x.mapError g = .error e' ↔ ∃ e, x = .error e ∧ g e = e' := by
  cases x <;> simp [Except.mapError]

theorem mapM_cons_error {a : α} {rest : List α} {e : ε} (h : f a = .error e) :
    (a :: rest).mapM f = .error e := by
  rw [List.mapM_cons, h]
  rfl

theorem mapM_cons_ok {a : α} {b : β} {rest : List α} (h : f a = .ok b) :
    (a :: rest).mapM f = (rest.mapM f).map (b :: ·) := by
  rw [List.mapM_cons, h]
  change (rest.mapM f >>= fun bs => pure (b :: bs)) = _
  cases rest.mapM f <;> rfl

/-- All items are read exactly when each is, and the results keep the order. -/
theorem mapM_eq_ok_iff {items : List α} {results : List β} :
    items.mapM f = .ok results ↔ List.Forall₂ (fun a b => f a = .ok b) items results := by
  induction items generalizing results with
  | nil =>
      rw [List.mapM_nil, List.forall₂_nil_left_iff]
      change Except.ok [] = Except.ok results ↔ _
      rw [Except.ok.injEq, eq_comm]
  | cons a rest ih =>
      rw [List.forall₂_cons_left_iff]
      cases ha : f a with
      | error e =>
          rw [mapM_cons_error ha]
          simp
      | ok b =>
          rw [mapM_cons_ok ha, map_eq_ok_iff]
          constructor
          · rintro ⟨bs, hrest, rfl⟩
            exact ⟨b, bs, rfl, ih.1 hrest, rfl⟩
          · rintro ⟨b', bs, hb, hrest, rfl⟩
            exact ⟨bs, ih.2 hrest, by rw [Except.ok.inj hb]⟩

/-- The error is the one of the first item that cannot be read. -/
theorem mapM_eq_error_iff {items : List α} {e : ε} :
    items.mapM f = .error e ↔
      ∃ before a after, items = before ++ a :: after ∧
        (∀ earlier ∈ before, ∃ b, f earlier = .ok b) ∧ f a = .error e := by
  induction items with
  | nil =>
      rw [List.mapM_nil]
      change Except.ok [] = Except.error e ↔ _
      simp
  | cons a rest ih =>
      cases ha : f a with
      | error e' =>
          -- The reading ends at the head, so no item stands before the failing one.
          rw [mapM_cons_error ha]
          constructor
          · intro h
            exact ⟨[], a, rest, rfl, by simp, by rw [ha, Except.error.inj h]⟩
          · rintro ⟨before, first, after, hitems, hbefore, hfirst⟩
            cases before with
            | nil =>
                obtain ⟨rfl, -⟩ := List.cons.inj hitems
                rw [ha] at hfirst
                rw [Except.error.inj hfirst]
            | cons a' before =>
                obtain ⟨rfl, -⟩ := List.cons.inj hitems
                obtain ⟨b, hb⟩ := hbefore a (by simp)
                rw [ha] at hb
                simp at hb
      | ok b =>
          -- The head is read, so the failing item is one of the rest.
          rw [mapM_cons_ok ha, map_eq_error_iff, ih]
          constructor
          · rintro ⟨before, first, after, rfl, hbefore, hfirst⟩
            refine ⟨a :: before, first, after, rfl, ?_, hfirst⟩
            intro earlier hearlier
            rcases List.mem_cons.1 hearlier with rfl | hearlier
            · exact ⟨b, ha⟩
            · exact hbefore earlier hearlier
          · rintro ⟨before, first, after, hitems, hbefore, hfirst⟩
            cases before with
            | nil =>
                obtain ⟨rfl, -⟩ := List.cons.inj hitems
                rw [ha] at hfirst
                simp at hfirst
            | cons a' before =>
                obtain ⟨rfl, rfl⟩ := List.cons.inj hitems
                exact ⟨before, first, after, rfl,
                  fun earlier hearlier => hbefore earlier (by simp [hearlier]), hfirst⟩

/-- Each result comes from an item. -/
theorem exists_mem_of_forall₂ {R : α → β → Prop} {items : List α} {results : List β}
    (h : List.Forall₂ R items results) {b : β} (hb : b ∈ results) : ∃ a ∈ items, R a b := by
  induction h with
  | nil => simp at hb
  | @cons a b' items results hab _ ih =>
      rcases List.mem_cons.1 hb with rfl | hb
      · exact ⟨a, by simp, hab⟩
      · obtain ⟨a', ha', hab'⟩ := ih hb
        exact ⟨a', by simp [ha'], hab'⟩

/-- Each item has a result. -/
theorem exists_result_of_forall₂ {R : α → β → Prop} {items : List α} {results : List β}
    (h : List.Forall₂ R items results) {a : α} (ha : a ∈ items) : ∃ b ∈ results, R a b :=
  exists_mem_of_forall₂ h.flip ha

/-- If each item has a result, there is a list of results. -/
theorem exists_forall₂ {R : α → β → Prop} {items : List α} (h : ∀ a ∈ items, ∃ b, R a b) :
    ∃ results, List.Forall₂ R items results := by
  induction items with
  | nil => exact ⟨[], .nil⟩
  | cons a items ih =>
      obtain ⟨b, hb⟩ := h a List.mem_cons_self
      obtain ⟨results, hresults⟩ := ih fun a' ha' => h a' (List.mem_cons_of_mem _ ha')
      exact ⟨b :: results, .cons hb hresults⟩

/-- What each item has in common with its result, the lists have in common. -/
theorem map_eq_map_of_forall₂ {γ : Type} {f : α → γ} {g : β → γ} {R : α → β → Prop}
    {items : List α} {results : List β} (h : List.Forall₂ R items results)
    (hR : ∀ a b, R a b → f a = g b) : items.map f = results.map g := by
  induction h with
  | nil => rfl
  | cons hab _ ih => rw [List.map_cons, List.map_cons, hR _ _ hab, ih]

end FormRules.Traversal
