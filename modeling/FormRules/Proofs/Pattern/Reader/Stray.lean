import FormRules.Proofs.Pattern.Reader.Parts

/-!
# Stray brackets

A closing bracket strays if no group is open where it stands.  A text with such a
bracket is no pattern by itself.  Between an opening bracket and a closing one it may be
part of a pattern, as the stray bracket closes the group that is open around it.  No other
text becomes a pattern that way: whatever goes past the end of the text takes in the
closing bracket behind it, and the group around the text is left open.
-/

namespace FormRules.Pattern.Reader

/-- Reading on from a state comes to a closing bracket while no group is open. -/
inductive Strays : State → List Char → Prop
  | here {s : State} {cs rest : List Char} (houter : s.outer = [])
      (hcs : skip s.flags cs = ')' :: rest) : Strays s cs
  | later {s t : State} {cs rest rest' : List Char} {c : Char} (hcs : skip s.flags cs = c :: rest)
      (hstep : step s c rest = .ok (t, rest')) (h : Strays t rest') : Strays s cs

section

variable {cs ds : List Char} {f : Flags} {m n : Nat} {s : State} {b : Level}

/-- A text with a stray bracket is no pattern. -/
theorem Strays.run_eq (h : Strays s cs) (n : Nat) : run n s cs = malformed := by
  induction h generalizing n with
  | @here s cs rest houter hcs =>
      cases n with
      | zero => rfl
      | succ n =>
          unfold run
          simp only [hcs, step, State.closeGroup, houter]
          rfl
  | @later s t cs rest rest' c hcs hstep _ ih =>
      cases n with
      | zero => rfl
      | succ n =>
          unfold run
          simp only [hcs, hstep]
          exact ih n

/-! ### Readings that go too far -/

/-- Where a group is open at the end of the text, there is no pattern. -/
theorem finish_of_outer_ne_nil (h : s.outer ≠ []) : s.finish = malformed := by
  rw [State.finish, if_neg]
  rwa [List.isEmpty_iff]

/-- Nothing closes a group behind the bracket that stands behind the pattern. -/
theorem run_past (h : s.outer ≠ []) (n : Nat) : run n s ['$'] = malformed := by
  rcases n with _ | _ | n
  · rfl
  · unfold run
    rw [skip_past]
    rfl
  · unfold run
    rw [skip_past]
    change run (n + 1) (s.push (.look (endAnchor s.flags))) [] = malformed
    unfold run
    rw [skip_nil]
    exact finish_of_outer_ne_nil h

/-- A bracket is no bound of a repetition. -/
theorem readBounds_of_skip (h : skip f cs = closing) : ∃ e, readBounds f cs = .error e := by
  have hclosing : readBounds f cs = readBounds f closing := by
    rw [readBounds_eq, readBounds_eq, h, closing, skip_closing]
  have hnil : readBounds f [] = malformed := by rw [readBounds_eq, skip_nil, if_pos rfl]
  cases hread : readBounds f closing with
  | error e => exact ⟨e, hclosing.trans hread⟩
  | ok y =>
      rcases (readBounds_yields (followed_append [])).back y hread with hnever | ⟨x, hx, -⟩
      · exact hnever.elim
      · rw [hnil] at hx
        contradiction

/-- After a step that went too far no pattern is read. -/
theorem FarStep.run_eq (h : FarStep (s, ds)) (n : Nat) : ∃ e, run n s ds = .error e := by
  obtain ⟨houter, hpast | ⟨rest, hds, hrest⟩⟩ := h
  · obtain rfl : ds = ['$'] := hpast
    exact ⟨_, run_past houter n⟩
  · obtain rfl : ds = '{' :: rest := hds
    cases n with
    | zero => exact ⟨_, rfl⟩
    | succ n =>
        obtain ⟨e, he⟩ := readBounds_of_skip hrest
        have hskip : skip s.flags ('{' :: rest) = '{' :: rest := by
          unfold skip
          split <;> rfl
        refine ⟨e, ?_⟩
        unfold run
        simp only [hskip, step, he]
        rfl

/-! ### Runs -/

/-- A group that is open at the end of the text alone is closed by the bracket behind it,
so the group around the text is not. -/
theorem run_closing (h : s.outer ≠ []) (hds : skip (s.within b).flags ds = closing) (n : Nat) :
    run n (s.within b) ds = malformed := by
  cases n with
  | zero => rfl
  | succ n =>
      unfold run
      rw [hds]
      obtain ⟨outer, branches, parts, flags, names⟩ := s
      cases outer with
      | nil => contradiction
      | cons level outer =>
          have houter : outer ++ [b] ≠ [] :=
            List.append_ne_nil_of_right_ne_nil outer (List.cons_ne_nil b [])
          exact run_past houter n

/-- Without stray brackets a text that is read inside of a group is read by itself. -/
theorem run_of_within {whole : Part} (h : Followed cs ds) (hfuel : cs.length < n)
    (hstrays : ¬ Strays s cs) (hwhole : run m (s.within b) ds = .ok whole) :
    ∃ part, run n s cs = .ok part := by
  induction n generalizing s cs ds m with
  | zero => exact absurd hfuel (Nat.not_lt_zero _)
  | succ n ih =>
      obtain ⟨m, rfl⟩ : ∃ k, m = k + 1 := by
        cases m with
        | zero => contradiction
        | succ k => exact ⟨k, rfl⟩
      have hskip : Followed (skip s.flags cs) (skip (s.within b).flags ds) := h.skip s.flags
      have hlen := length_skip_le s.flags cs
      rcases hskip.nil_or_cons with hcs | ⟨c, rest, rest', hcs, hds, hrest⟩
      · -- The text alone is at its end.
        by_cases houter : s.outer = []
        · refine ⟨s.inner, ?_⟩
          unfold run
          simp only [hcs, State.finish, houter]
          rfl
        · rw [hcs] at hskip
          rcases hskip.nil with hds | hds
          · rw [run_closing houter hds] at hwhole
            contradiction
          · unfold run at hwhole
            rw [hds] at hwhole
            change (s.within b).finish = _ at hwhole
            rw [finish_of_outer_ne_nil (s.outer_within_ne_nil b)] at hwhole
            contradiction
      · unfold run at hwhole ⊢
        rw [hds] at hwhole
        rw [hcs]
        simp only at hwhole ⊢
        cases hstep : step (s.within b) c rest' with
        | error e =>
            rw [hstep] at hwhole
            contradiction
        | ok y =>
            rw [hstep] at hwhole
            rcases (step_yields c hrest).back y hstep with
              (hfar | ⟨rfl, houter⟩) | ⟨x, hx, hstate, hfollowed⟩
            · obtain ⟨e, he⟩ := FarStep.run_eq hfar m
              change run m y.1 y.2 = _ at hwhole
              rw [he] at hwhole
              contradiction
            · exact absurd (.here houter hcs) hstrays
            · rw [hx]
              obtain ⟨t, ts⟩ := y
              obtain rfl : t = x.1.within b := hstate
              have hle := step_leaves c rest x hx
              rw [hcs, List.length_cons] at hlen
              exact ih hfollowed (by omega) (fun h => hstrays (.later hcs hx h)) hwhole

/-- What is a pattern between the anchors of a text is one by itself, unless a closing
bracket strays. -/
theorem readPart_of_anchored {whole : Part} (hstrays : ¬ Strays .initial cs)
    (hwhole : readPart ('^' :: '(' :: '?' :: ':' :: (cs ++ closing)) = .ok whole) :
    ∃ part, readPart cs = .ok part := by
  rw [readPart_open] at hwhole
  exact run_of_within (followed_append cs) (Nat.lt_succ_self _) hstrays hwhole

end

end FormRules.Pattern.Reader
