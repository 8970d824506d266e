import FormRules.Pattern.Reader
import FormRules.Proofs.Pattern.Reader.Bracket
import FormRules.Proofs.Traversal

/-!
# Patterns inside of a group

A pattern that can be read by itself is read in the same way inside of a group: one
level more is open, and all else is as before.  It closes each group that it opens
and no other one, so the bracket behind it closes the group around it, and the flags
from before that group hold again.
-/

namespace FormRules.Pattern.Reader

/-- The same state with one more group open around all others. -/
def State.within (s : State) (b : Level) : State :=
  { s with outer := s.outer ++ [b] }

/-- The state of one reading is that of another inside of a group, and its rest is
followed by more. -/
def Inside (b : Level) (x y : Read State) : Prop :=
  y.1 = x.1.within b ∧ Followed x.2 y.2

/-- A step went too far if a group is still open when the bracket behind the pattern has
been read, or when only a brace is left before it. -/
def FarStep (y : Read State) : Prop :=
  y.1.outer ≠ [] ∧ (Past y ∨ Dangles y.1.flags y.2)

section

variable {cs ds : List Char} {f : Flags} {m n : Nat} {s : State} {b : Level}

theorem State.outer_within_ne_nil (s : State) (b : Level) : (s.within b).outer ≠ [] :=
  List.append_ne_nil_of_right_ne_nil _ (List.cons_ne_nil b [])

/-! ### Groups -/

theorem readGroupName_yields (h : Followed cs ds) :
    Yields Same Never (readGroupName cs) (readGroupName ds) := by
  have hdrop := h.dropWhile_closing (p := (· != '>')) rfl rfl
  have htake : cs.dropWhile (· != '>') ≠ [] → _ := h.takeWhile_eq (p := (· != '>'))
  unfold readGroupName
  simp only
  split
  · next c more rest hname hcs =>
    rw [hcs] at hdrop htake
    obtain ⟨rest', hds, hrest⟩ := hdrop.cons
    rw [← htake (by simp), hname, hds]
    exact yields_ite (fun _ => yields_ok ⟨rfl, hrest⟩) fun _ => yields_malformed
  · next hno =>
    split
    · next c more rest hname hds =>
      rw [hds] at hdrop
      obtain ⟨rest', hcs, -⟩ := hdrop.of_cons (by decide)
      rw [← htake (by simp [hcs])] at hname
      exact (hno c more rest' hname hcs).elim
    · exact yields_malformed

theorem readGroupName_leaves (cs : List Char) : Leaves cs.length (readGroupName cs) := by
  have hlen := (cs.dropWhile_suffix (· != '>')).length_le
  unfold readGroupName
  simp only
  split
  · next hcs =>
    rw [hcs, List.length_cons] at hlen
    exact leaves_ite (leaves_ok (Nat.le_of_succ_le hlen)) leaves_malformed
  · exact leaves_malformed

theorem openNamed_yields (h : Followed cs ds) :
    Yields (Inside b) FarStep (openNamed s cs) (openNamed (s.within b) ds) := by
  refine (readGroupName_yields h).then fun name cs ds _ hrest => ?_
  exact yields_ite (fun _ => yields_malformed) fun _ => yields_ok ⟨rfl, hrest⟩

theorem openNamed_leaves (cs : List Char) : Leaves cs.length (openNamed s cs) :=
  (readGroupName_leaves cs).bind fun _ _ hcs => leaves_ite leaves_malformed (leaves_ok hcs)

/-- Flags after a question mark, and what they are for. -/
def openFlags (s : State) (cs : List Char) : Except PatternFault (Read State) := do
  let (read, rest) ← readFlags s.flags [] false false cs
  if read.opens then
    .ok (s.openGroup read.flags false, rest)
  else if read.any then
    .ok ({ s with flags := read.flags }.push .empty, rest)
  else
    malformed

theorem openFlags_yields (h : Followed cs ds) :
    Yields (Inside b) FarStep (openFlags s cs) (openFlags (s.within b) ds) := by
  refine (readFlags_yields [] false false h).thenFar ?_ fun read cs ds _ hrest => ?_
  · intro read ds hpast y hy
    simp only at hy
    split at hy
    · obtain rfl := Except.ok.inj hy
      exact ⟨List.cons_ne_nil _ _, .inl hpast⟩
    · split at hy
      · obtain rfl := Except.ok.inj hy
        exact ⟨s.outer_within_ne_nil b, .inl hpast⟩
      · contradiction
  · refine yields_ite (fun _ => yields_ok ⟨rfl, hrest⟩) fun _ => ?_
    exact yields_ite (fun _ => yields_ok ⟨rfl, hrest⟩) fun _ => yields_malformed

theorem openFlags_leaves (cs : List Char) : Leaves cs.length (openFlags s cs) :=
  (readFlags_leaves [] false false cs).bind fun _ _ hcs =>
    leaves_ite (leaves_ok hcs) (leaves_ite (leaves_ok hcs) leaves_malformed)

theorem readOpen_angle (h : skip s.flags cs = '?' :: '<' :: ds)
    (hequals : ∀ tail, ds = '=' :: tail → False) (hbang : ∀ tail, ds = '!' :: tail → False) :
    readOpen s cs = openNamed s ds := by
  unfold readOpen
  rw [h]
  split <;> grind

theorem readOpen_flags (h : skip s.flags cs = '?' :: ds)
    (hnamed : ∀ tail, ds = 'P' :: '<' :: tail → False) (hangle : ∀ tail, ds = '<' :: tail → False) :
    readOpen s cs = openFlags s ds := by
  unfold readOpen
  rw [h]
  split <;> simp_all [openFlags]

theorem readOpen_plain (h : ∀ tail, skip s.flags cs = '?' :: tail → False) :
    readOpen s cs = .ok (s.openGroup s.flags true, skip s.flags cs) := by
  unfold readOpen
  split <;> simp_all

theorem readOpen_yields (h : Followed cs ds) :
    Yields (Inside b) FarStep (readOpen s cs) (readOpen (s.within b) ds) := by
  have hskip : Followed (skip s.flags cs) (skip (s.within b).flags ds) := h.skip s.flags
  unfold readOpen
  split
  · next rest hcs =>
    rw [hcs] at hskip
    obtain ⟨_, hds, hthird⟩ := hskip.cons_cons
    obtain ⟨rest', rfl, hrest⟩ := hthird.cons
    rw [hds]
    exact openNamed_yields hrest
  · next hcs =>
    rw [hcs] at hskip
    obtain ⟨_, hds, hthird⟩ := hskip.cons_cons
    obtain ⟨rest', rfl, -⟩ := hthird.cons
    rw [hds]
    exact yields_malformed
  · next hcs =>
    rw [hcs] at hskip
    obtain ⟨_, hds, hthird⟩ := hskip.cons_cons
    obtain ⟨rest', rfl, -⟩ := hthird.cons
    rw [hds]
    exact yields_malformed
  · next rest hequals hbang hcs =>
    rw [hcs] at hskip
    obtain ⟨rest', hds, hrest⟩ := hskip.cons_cons
    change Yields _ _ _ (readOpen (s.within b) ds)
    rw [readOpen_angle hds (hrest.ne_cons (by decide) hequals) (hrest.ne_cons (by decide) hbang)]
    exact openNamed_yields hrest
  · next rest hnamed _ _ hangle hcs =>
    rw [hcs] at hskip
    obtain ⟨rest', hds, hrest⟩ := hskip.cons
    change Yields _ _ _ (readOpen (s.within b) ds)
    rw [readOpen_flags hds (hrest.ne_cons_cons (by decide) (by decide) hnamed)
      (hrest.ne_cons (by decide) hangle)]
    exact openFlags_yields hrest
  · next _ _ _ _ hplain =>
    change Yields _ _ _ (readOpen (s.within b) ds)
    rw [readOpen_plain (hskip.ne_cons (by decide) hplain)]
    exact yields_ok ⟨rfl, hskip⟩

theorem readOpen_leaves (cs : List Char) : Leaves cs.length (readOpen s cs) := by
  have hlen := length_skip_le s.flags cs
  unfold readOpen
  split
  · next rest hcs =>
    rw [hcs] at hlen
    exact (openNamed_leaves rest).mono (by simp only [List.length_cons] at hlen; omega)
  · exact leaves_malformed
  · exact leaves_malformed
  · next rest _ _ hcs =>
    rw [hcs] at hlen
    exact (openNamed_leaves rest).mono (by simp only [List.length_cons] at hlen; omega)
  · next rest _ _ _ _ hcs =>
    rw [hcs] at hlen
    exact (openFlags_leaves rest).mono (by simp only [List.length_cons] at hlen; omega)
  · exact leaves_ok hlen

/-- A group that is open in the text alone is closed as it would be there. -/
theorem closeGroup_yields (s : State) (b : Level) :
    Yields (fun x y => y = x.within b) (fun _ => s.outer = []) s.closeGroup
      (s.within b).closeGroup := by
  obtain ⟨outer, branches, parts, flags, names⟩ := s
  cases outer with
  | nil => exact yields_far fun _ _ => rfl
  | cons level outer => exact yields_ok rfl

theorem push_yields (a : Except PatternFault Part) (h : Followed cs ds) :
    Yields (Inside b) Never (a.map fun part => (s.push part, cs))
      (a.map fun part => ((s.within b).push part, ds)) := by
  cases a with
  | error e => exact yields_error
  | ok part => exact yields_ok ⟨rfl, h⟩

theorem repeatLast_within (r : Rounds) :
    (s.within b).repeatLast r = (s.repeatLast r).map (·.within b) := by
  obtain ⟨outer, branches, parts, flags, names⟩ := s
  cases parts with
  | nil => rfl
  | cons p parts =>
      simp only [State.repeatLast, State.within]
      split <;> rfl

theorem repeatLast_yields (r : Rounds) :
    Yields (fun x y => y = x.within b) Never (s.repeatLast r) ((s.within b).repeatLast r) := by
  rw [repeatLast_within]
  cases s.repeatLast r with
  | error e => exact yields_error
  | ok t => exact yields_ok rfl

theorem repeatBy_yields (min : Nat) (max : Option Nat) (h : Followed cs ds) :
    Yields (Inside b) Never (s.repeatBy min max cs) ((s.within b).repeatBy min max ds) := by
  obtain ⟨hrounds, hrest⟩ := readPreference_same (f := s.flags) min max h
  simp only [State.repeatBy]
  have hflags : (s.within b).flags = s.flags := rfl
  rw [hflags, ← hrounds]
  exact (repeatLast_yields _).map (fun _ h => h) fun _ _ hs => ⟨hs, hrest⟩

/-- What an escape adds to a pattern. -/
def pushEscape (s : State) (x : Read Escape) : Except PatternFault (Read State) :=
  match x with
  | (.char c byte, rest) => do
      let part ← charPart s.flags c byte
      .ok (s.push part, rest)
  | (.set set, rest) => .ok (s.push (.one s.flags set 0), rest)
  | (.anchor a, rest) => .ok (s.push (.look a), rest)

/-- A step that adds to the pattern leaves to it what the escape has left. -/
theorem pushEscape_eq_ok {x : Read Escape} {y : Read State} (h : pushEscape s x = .ok y) :
    y.2 = x.2 ∧ y.1.outer = s.outer ∧ y.1.flags = s.flags := by
  obtain ⟨e, rest⟩ := x
  cases e with
  | char c byte =>
      change (charPart s.flags c byte >>= fun part => .ok (s.push part, rest)) = _ at h
      cases hpart : charPart s.flags c byte with
      | error e =>
          rw [hpart] at h
          contradiction
      | ok part =>
          rw [hpart] at h
          obtain rfl := Except.ok.inj h
          exact ⟨rfl, rfl, rfl⟩
  | set set =>
      obtain rfl := Except.ok.inj h
      exact ⟨rfl, rfl, rfl⟩
  | anchor a =>
      obtain rfl := Except.ok.inj h
      exact ⟨rfl, rfl, rfl⟩

theorem pushEscape_yields (e : Escape) (h : Followed cs ds) :
    Yields (Inside b) FarStep (pushEscape s (e, cs)) (pushEscape (s.within b) (e, ds)) := by
  cases e with
  | char c byte => exact (push_yields (charPart s.flags c byte) h).of_never
  | set set => exact yields_ok ⟨rfl, h⟩
  | anchor a => exact yields_ok ⟨rfl, h⟩

/-- A closing bracket where no group is open belongs to no pattern by itself, but it can
close the group around the pattern. -/
theorem step_yields (c : Char) (h : Followed cs ds) :
    Yields (Inside b) (fun y => FarStep y ∨ c = ')' ∧ s.outer = []) (step s c cs)
      (step (s.within b) c ds) := by
  unfold step
  split
  · exact (readOpen_yields h).mono fun _ h => .inl h
  · exact (closeGroup_yields s b).map (fun _ h => .inr ⟨rfl, h⟩) fun _ _ hs => ⟨hs, h⟩
  · exact yields_ok ⟨rfl, h⟩
  · refine (readSet_yields h).then fun term cs ds _ hrest => ?_
    exact yields_ok ⟨rfl, hrest⟩
  · exact (repeatBy_yields _ _ h).of_never
  · exact (repeatBy_yields _ _ h).of_never
  · exact (repeatBy_yields _ _ h).of_never
  · refine (readBounds_yields h).then fun rounds cs ds _ hrest => ?_
    exact (repeatLast_yields rounds).bind (fun _ h => h.elim) fun s t _ hs =>
      yields_ok ⟨hs, hrest⟩
  · refine (readEscape_yields h).thenFar ?_ fun e _ _ _ hrest =>
      (pushEscape_yields e hrest).mono fun _ h => .inl h
    intro e ds hfar y hy
    obtain ⟨hrest, houter, hflags⟩ := pushEscape_eq_ok hy
    refine .inl ⟨houter ▸ s.outer_within_ne_nil b, ?_⟩
    rw [Past, hrest, hflags]
    exact hfar.imp_right And.right
  · exact (push_yields (dotPart s.flags) h).of_never
  · exact yields_ok ⟨rfl, h⟩
  · exact yields_ok ⟨rfl, h⟩
  · exact (push_yields (charPart s.flags c false) h).of_never

theorem repeatBy_leaves (min : Nat) (max : Option Nat) (cs : List Char) :
    Leaves cs.length (s.repeatBy min max cs) := by
  have hlen := length_readPreference_le (f := s.flags) min max cs
  intro y hy
  simp only [State.repeatBy] at hy
  obtain ⟨t, -, rfl⟩ := Traversal.map_eq_ok_iff.1 hy
  exact hlen

theorem step_leaves (c : Char) (cs : List Char) : Leaves cs.length (step s c cs) := by
  have hmap : ∀ {α : Type} (a : Except PatternFault α) (g : α → State),
      Leaves cs.length (a.map fun x => (g x, cs)) := by
    intro α a g y hy
    obtain ⟨t, -, rfl⟩ := Traversal.map_eq_ok_iff.1 hy
    exact Nat.le_refl _
  unfold step
  split
  · exact readOpen_leaves cs
  · exact hmap _ id
  · exact leaves_ok (Nat.le_refl _)
  · exact (readSet_leaves cs).bind fun _ _ hcs => leaves_ok hcs
  · exact repeatBy_leaves _ _ cs
  · exact repeatBy_leaves _ _ cs
  · exact repeatBy_leaves _ _ cs
  · refine (readBounds_leaves cs).bind fun rounds rest hrest => ?_
    change Leaves cs.length (s.repeatLast rounds >>= fun t => .ok (t, rest))
    cases s.repeatLast rounds with
    | error e => exact leaves_error
    | ok t => exact leaves_ok hrest
  · rcases cs with _ | ⟨c, cs⟩
    · exact leaves_malformed
    · refine (readEscape_leaves c cs).bind fun e rest hrest y hy => ?_
      rw [(pushEscape_eq_ok hy).1]
      exact Nat.le_succ_of_le hrest
  · exact hmap _ _
  · exact leaves_ok (Nat.le_refl _)
  · exact leaves_ok (Nat.le_refl _)
  · exact hmap _ _

/-! ### Runs -/

/-- A pattern that is read to its end by itself is one part of the group around it,
and only the anchor is left to read behind the group. -/
theorem run_within {part whole : Part} (h : Followed cs ds) (hfuel : n + 2 ≤ m)
    (hrun : run n s cs = .ok part) (hwhole : run m (s.within b) ds = .ok whole) :
    ∃ k names, run (k + 2) ⟨[], b.branches, part.group b.captures :: b.parts, b.flags, names⟩
      ['$'] = .ok whole := by
  induction n generalizing s cs ds m with
  | zero => contradiction
  | succ n ih =>
      obtain ⟨m, rfl⟩ : ∃ k, m = k + 1 := Nat.exists_eq_add_one.2 (by omega)
      have hskip : Followed (skip s.flags cs) (skip (s.within b).flags ds) := h.skip s.flags
      unfold run at hrun hwhole
      rcases hskip.nil_or_cons with hcs | ⟨c, rest, rest', hcs, hds, hrest⟩
      · -- The text alone is at its end, so all its groups are closed.
        rw [hcs] at hrun hskip
        obtain ⟨outer, branches, parts, flags, names⟩ := s
        cases outer with
        | cons level outer => contradiction
        | nil =>
            obtain rfl := Except.ok.inj hrun
            rcases hskip.nil with hds | hds
            · rw [hds] at hwhole
              obtain ⟨k, rfl⟩ : ∃ k, m = k + 2 := ⟨m - 2, by omega⟩
              exact ⟨k, names, hwhole⟩
            · rw [hds] at hwhole
              contradiction
      · rw [hcs] at hrun
        rw [hds] at hwhole
        simp only at hrun hwhole
        cases hstep : step s c rest with
        | error e =>
            rw [hstep] at hrun
            contradiction
        | ok x =>
            obtain ⟨y, hy, hstate, hfollowed⟩ := (step_yields (b := b) c hrest).forth x hstep
            rw [hstep] at hrun
            rw [hy] at hwhole
            obtain ⟨t, ts⟩ := y
            obtain rfl : t = x.1.within b := hstate
            exact ih hfollowed (by omega) hrun hwhole

/-- The text between the anchors is read inside of a group that captures nothing. -/
theorem readPart_open (cs : List Char) :
    readPart ('^' :: '(' :: '?' :: ':' :: (cs ++ closing)) = run ((cs ++ closing).length + 3)
      (State.initial.within ⟨[], [.look .textStart], .initial, false⟩) (cs ++ closing) := rfl

/-- A pattern between the anchors of a text becomes a group between two conditions. -/
theorem readPart_anchored_eq {part whole : Part} (hpart : readPart cs = .ok part)
    (hwhole : readPart ('^' :: '(' :: '?' :: ':' :: (cs ++ closing)) = .ok whole) :
    whole = .sequence [.look .textEnd, part.group false, .look .textStart] := by
  rw [readPart_open] at hwhole
  have hfuel : cs.length + 1 + 2 ≤ (cs ++ closing).length + 3 := by
    rw [List.length_append]
    omega
  obtain ⟨k, names, hrun⟩ := run_within (followed_append cs) hfuel hpart hwhole
  exact (Except.ok.inj hrun).symm

theorem readPart_anchored {part whole : Part} (hpart : readPart cs = .ok part)
    (hwhole : readPart ('^' :: '(' :: '?' :: ':' :: (cs ++ closing)) = .ok whole) :
    whole.pattern = seqAll [.look .textStart, part.pattern, .look .textEnd] := by
  rw [readPart_anchored_eq hpart hwhole]
  rfl

end

end FormRules.Pattern.Reader
