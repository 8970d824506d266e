import FormRules.Pattern.Reader.Bracket
import FormRules.Proofs.Pattern.Reader.Followed

/-!
# Counts and flags with something behind them

Digits, blanks and the letters of names are scanned in one way: as long as
characters are of a kind, with what does not count dropped after each of them.
-/

namespace FormRules.Pattern.Reader

/-- The characters of a kind, and the rest. -/
def scanWhile (p : Char → Bool) (f : Flags) : Nat → List Char → Read (List Char)
  | 0, cs => ([], cs)
  | fuel + 1, cs =>
      match cs with
      | c :: rest =>
          if p c then
            let (taken, rest) := scanWhile p f fuel (skip f rest)
            (c :: taken, rest)
          else
            ([], cs)
      | [] => ([], [])

section

variable {cs ds : List Char} {f : Flags} {m n : Nat} {p : Char → Bool}

theorem scanDigits_eq (n : Nat) (cs : List Char) :
    scanDigits f n cs = scanWhile Char.isDigit f n cs := by
  induction n generalizing cs with
  | zero => rfl
  | succ n ih => cases cs <;> simp only [scanDigits, scanWhile, ih]

/-- A letter of a name for an edge of a word. -/
def isEdgeLetter (c : Char) : Bool := c.isAlpha || c = '-'

theorem scanEdgeName_eq (n : Nat) (cs : List Char) :
    scanEdgeName f n cs = scanWhile isEdgeLetter f n cs := by
  induction n generalizing cs with
  | zero => rfl
  | succ n ih =>
      cases cs with
      | nil => rfl
      | cons c cs =>
          simp only [scanEdgeName, scanWhile, ih]
          rfl

theorem dropBlanks_eq (n : Nat) (cs : List Char) :
    dropBlanks f n cs = (scanWhile Text.isBlank f n cs).2 := by
  induction n generalizing cs with
  | zero => rfl
  | succ n ih =>
      cases cs with
      | nil => rfl
      | cons c cs =>
          simp only [dropBlanks, scanWhile, ih]
          split <;> rfl

/-- With fuel for all characters the scan ends where it ends in the text alone. -/
theorem scanWhile_same (hp : p ')' = false) (h : Followed cs ds) (hcs : cs.length ≤ n)
    (hds : ds.length ≤ m) : Same (scanWhile p f n cs) (scanWhile p f m ds) := by
  have hnil : ∀ n m ds, Followed [] ds →
      Same (scanWhile p f n []) (scanWhile p f m ds) := by
    intro n m ds h
    have hleft : scanWhile p f n [] = ([], []) := by cases n <;> rfl
    have hright : scanWhile p f m ds = ([], ds) := by
      rcases h.nil with rfl | rfl <;> cases m <;> simp [scanWhile, closing, hp]
    rw [hleft, hright]
    exact ⟨rfl, h⟩
  induction n generalizing cs ds m with
  | zero =>
      obtain rfl : cs = [] := List.length_eq_zero_iff.1 (Nat.le_zero.1 hcs)
      exact hnil _ _ _ h
  | succ n ih =>
      rcases h.nil_or_cons with rfl | ⟨c, rest, rest', rfl, rfl, hrest⟩
      · exact hnil _ _ _ h
      · rw [List.length_cons] at hcs hds
        obtain ⟨m, rfl⟩ : ∃ k, m = k + 1 := Nat.exists_eq_add_one.2 (by omega)
        have hskip : Same _ _ := ih (hrest.skip f)
          ((length_skip_le f rest).trans (Nat.le_of_succ_le_succ hcs))
          ((length_skip_le f rest').trans (Nat.le_of_succ_le_succ hds))
        simp only [scanWhile]
        split
        · exact ⟨congrArg (c :: ·) hskip.1, hskip.2⟩
        · exact ⟨rfl, h⟩

theorem length_scanWhile_le (n : Nat) (cs : List Char) :
    (scanWhile p f n cs).2.length ≤ cs.length := by
  induction n generalizing cs with
  | zero => exact Nat.le_refl _
  | succ n ih =>
      cases cs with
      | nil => exact Nat.le_refl _
      | cons c rest =>
          simp only [scanWhile]
          split
          · exact (ih _).trans ((length_skip_le f rest).trans (Nat.le_succ _))
          · exact Nat.le_refl _

theorem dropBlanks_followed (h : Followed cs ds) :
    Followed (dropBlanks f cs.length cs) (dropBlanks f ds.length ds) := by
  rw [dropBlanks_eq, dropBlanks_eq]
  exact (scanWhile_same (by decide) h (Nat.le_refl _) (Nat.le_refl _)).2

theorem readCount_yields (h : Followed cs ds) :
    Yields Same Never (readCount f cs) (readCount f ds) := by
  have hblanks := h.dropWhile (p := Text.isBlank) (by decide)
  obtain ⟨hdigits, hrest⟩ := scanWhile_same (p := Char.isDigit) (f := f) (by decide) hblanks
    (Nat.le_refl _) (Nat.le_refl _)
  simp only [readCount, scanDigits_eq]
  rw [hdigits]
  refine yields_ite (fun _ => yields_ok ⟨rfl, dropBlanks_followed hrest⟩) fun _ => ?_
  exact yields_ite (fun _ => yields_ok ⟨rfl, dropBlanks_followed hrest⟩) fun _ => yields_malformed

theorem readCount_leaves (cs : List Char) : Leaves cs.length (readCount f cs) := by
  have hblanks := (cs.dropWhile_suffix Text.isBlank).length_le
  have hdigits := length_scanWhile_le (p := Char.isDigit) (f := f)
    (cs.dropWhile Text.isBlank).length (cs.dropWhile Text.isBlank)
  simp only [readCount, scanDigits_eq, dropBlanks_eq]
  generalize scanWhile Char.isDigit f _ _ = scanned at hdigits ⊢
  have hrest := length_scanWhile_le (p := Text.isBlank) (f := f) scanned.2.length scanned.2
  have hle := hrest.trans (hdigits.trans hblanks)
  split
  · exact leaves_ok hle
  · split
    · exact leaves_ok hle
    · exact leaves_malformed

theorem readPreference_same (min : Nat) (max : Option Nat) (h : Followed cs ds) :
    Same (readPreference f min max cs) (readPreference f min max ds) := by
  unfold readPreference
  split
  · next rest =>
    obtain ⟨ds, rfl, hrest⟩ := h.cons
    exact ⟨rfl, hrest⟩
  · next hno =>
    split
    · next rest => exact (h.ne_cons (by decide) hno rest rfl).elim
    · exact ⟨rfl, h⟩

theorem length_readPreference_le (min : Nat) (max : Option Nat) (cs : List Char) :
    (readPreference f min max cs).2.length ≤ cs.length := by
  unfold readPreference
  split
  · exact Nat.le_succ _
  · exact Nat.le_refl _

/-- The bounds of a repetition after its first number. -/
def readMost (f : Flags) (least : Option Nat) (cs : List Char) :
    Except PatternFault (Read (Nat × Option Nat)) :=
  match least, cs with
  | some least, ',' :: rest =>
      if (skip f rest).head? = some '}' then
        .ok ((least, none), skip f rest)
      else do
        let (most, rest) ← readCount f (skip f rest)
        match most with
        | some most => .ok ((least, some most), rest)
        | none => malformed
  | some least, cs => .ok ((least, some least), cs)
  | none, _ => malformed

/-- The closing brace of a repetition, and its preference. -/
def closeBounds (f : Flags) (bounds : Nat × Option Nat) (cs : List Char) :
    Except PatternFault (Read Rounds) :=
  match cs with
  | '}' :: rest =>
      if bounds.2.all (bounds.1 ≤ ·) then
        .ok (readPreference f bounds.1 bounds.2 (skip f rest))
      else
        malformed
  | _ => malformed

theorem readBounds_eq (cs : List Char) : readBounds f cs =
    if skip f cs = [] then malformed
    else
      readCount f (skip f cs) >>= fun x => readMost f x.1 x.2 >>= fun y => closeBounds f y.1 y.2 := by
  unfold readBounds
  dsimp only
  split
  · rfl
  · refine congrArg (readCount f (skip f cs) >>= ·) (funext fun x => ?_)
    rcases x with ⟨_ | least, _ | ⟨c, rest⟩⟩
    · rfl
    · rfl
    · rfl
    · by_cases hc : c = ','
      · subst hc
        simp only [readMost]
        split
        · rfl
        · cases readCount f (skip f rest) with
          | error e => rfl
          | ok y => rcases y with ⟨_ | most, rest⟩ <;> rfl
      · have hmost : readMost f (some least) (c :: rest) = .ok ((least, some least), c :: rest) := by
          unfold readMost
          split
          · next heq => exact absurd (List.cons.inj heq).1 hc
          · next heq _ => rw [Option.some.inj heq]
          · contradiction
        rw [hmost]
        dsimp only
        split
        · next heq => exact absurd (List.cons.inj heq).1 hc
        · next heq _ =>
          rw [Option.some.inj heq]
          unfold closeBounds
          rfl
        · contradiction

theorem readMost_yields (least : Option Nat) (h : Followed cs ds) :
    Yields Same Never (readMost f least cs) (readMost f least ds) := by
  cases least with
  | none => exact yields_malformed
  | some least =>
      simp only [readMost]
      split
      · next hleast =>
        obtain ⟨ds, rfl, hrest⟩ := h.cons
        have hskip := hrest.skip f
        rw [Option.some.inj hleast]
        refine yields_ite_of_iff (hskip.head?_eq_some_iff (by decide))
          (fun _ => yields_ok ⟨rfl, hskip⟩) fun _ => ?_
        refine (readCount_yields hskip).then fun most _ _ _ hrest => ?_
        cases most with
        | none => exact yields_malformed
        | some most => exact yields_ok ⟨rfl, hrest⟩
      · next hleast hno =>
        split
        · next rest _ => exact (h.ne_cons (by decide) hno rest rfl).elim
        · next hleast' _ =>
          rw [← Option.some.inj hleast, ← Option.some.inj hleast']
          exact yields_ok ⟨rfl, h⟩
        · contradiction
      · contradiction

theorem readMost_leaves (least : Option Nat) (cs : List Char) :
    Leaves cs.length (readMost f least cs) := by
  unfold readMost
  split
  · next rest =>
    have hskip := (length_skip_le f rest).trans (Nat.le_succ _)
    split
    · exact leaves_ok hskip
    · refine (readCount_leaves _).bind fun most cs hcs => ?_
      cases most with
      | none => exact leaves_malformed
      | some most => exact leaves_ok (hcs.trans hskip)
  · exact leaves_ok (Nat.le_refl _)
  · exact leaves_malformed

theorem closeBounds_yields (bounds : Nat × Option Nat) (h : Followed cs ds) :
    Yields Same Never (closeBounds f bounds cs) (closeBounds f bounds ds) := by
  unfold closeBounds
  split
  · next rest =>
    obtain ⟨ds, rfl, hrest⟩ := h.cons
    exact yields_ite (fun _ => yields_ok (readPreference_same _ _ (hrest.skip f)))
      fun _ => yields_malformed
  · next hno =>
    split
    · next rest => exact (h.ne_cons (by decide) hno rest rfl).elim
    · exact yields_malformed

theorem closeBounds_leaves (bounds : Nat × Option Nat) (cs : List Char) :
    Leaves cs.length (closeBounds f bounds cs) := by
  unfold closeBounds
  split
  · next rest =>
    split
    · exact leaves_ok ((length_readPreference_le _ _ _).trans
        ((length_skip_le f rest).trans (Nat.le_succ _)))
    · exact leaves_malformed
  · exact leaves_malformed

theorem readBounds_yields (h : Followed cs ds) :
    Yields Same Never (readBounds f cs) (readBounds f ds) := by
  have hskip := h.skip f
  have hcounts : ∀ cs ds, Followed cs ds → Yields Same Never
      (readCount f cs >>= fun x => readMost f x.1 x.2 >>= fun y => closeBounds f y.1 y.2)
      (readCount f ds >>= fun x => readMost f x.1 x.2 >>= fun y => closeBounds f y.1 y.2) := by
    intro cs ds h
    refine (readCount_yields h).then fun least _ _ _ hrest => ?_
    exact (readMost_yields least hrest).then fun bounds _ _ _ hrest =>
      closeBounds_yields bounds hrest
  rw [readBounds_eq, readBounds_eq]
  rcases hskip.nil_or_cons with hcs | ⟨c, rest, rest', hcs, hds, hrest⟩
  · rw [hcs] at hskip ⊢
    rcases hskip.nil with hds | hds
    · -- There is no number before the bracket either.
      rw [hds, if_pos rfl, if_neg (by simp [closing])]
      exact hcounts [] closing (followed_append [])
    · rw [hds, if_pos rfl]
      exact yields_malformed
  · rw [hcs, hds, if_neg (by simp), if_neg (by simp)]
    exact hcounts _ _ (hrest.cons_append c)

theorem readBounds_leaves (cs : List Char) : Leaves cs.length (readBounds f cs) := by
  rw [readBounds_eq]
  split
  · exact leaves_malformed
  · refine ((readCount_leaves _).mono (length_skip_le f cs)).bind fun least cs hcs => ?_
    refine ((readMost_leaves least cs).mono hcs).bind fun bounds cs hcs => ?_
    exact (closeBounds_leaves bounds cs).mono hcs

theorem readFlags_yields (seen : List Char) (negated dangling : Bool) (h : Followed cs ds) :
    Yields Same Past (readFlags f seen negated dangling cs)
      (readFlags f seen negated dangling ds) := by
  induction cs generalizing ds f seen negated dangling with
  | nil =>
      rcases h.nil with rfl | rfl
      · -- The bracket behind the pattern ends the flags.
        refine yields_far fun y hy => ?_
        simp only [closing, readFlags] at hy
        split at hy
        · split at hy
          · contradiction
          · obtain rfl := Except.ok.inj hy
            rfl
        · next hne => exact absurd (.inr trivial) hne
      · exact yields_malformed
  | cons c cs ih =>
      obtain ⟨ds, rfl, hrest⟩ := h.cons
      simp only [readFlags]
      refine yields_ite (fun _ => ?_) fun _ => ?_
      · exact yields_ite (fun _ => yields_malformed) fun _ => yields_ok ⟨rfl, hrest⟩
      refine yields_ite (fun _ => yields_malformed) fun _ => ?_
      refine yields_ite (fun _ => ih _ _ _ hrest) fun _ => ?_
      split
      · exact ih _ _ _ hrest
      · exact yields_malformed

theorem readFlags_leaves (seen : List Char) (negated dangling : Bool) (cs : List Char) :
    Leaves cs.length (readFlags f seen negated dangling cs) := by
  induction cs generalizing f seen negated dangling with
  | nil => exact leaves_malformed
  | cons c cs ih =>
      simp only [readFlags]
      split
      · split
        · exact leaves_malformed
        · exact leaves_ok (Nat.le_succ _)
      · split
        · exact leaves_malformed
        · split
          · exact (ih _ _ _).mono (Nat.le_succ _)
          · split
            · exact (ih _ _ _).mono (Nat.le_succ _)
            · exact leaves_malformed

end

end FormRules.Pattern.Reader
