import FormRules.Pattern.Reader.Scan
import FormRules.Proofs.Text.Trim

/-!
# Patterns with something behind them

A pattern for whole texts is written between an opening bracket and a closing one
with an anchor behind it.  Whatever reads a piece of the pattern by itself reads
the same piece of the longer text, and leaves the same rest with the closing
bracket and the anchor behind it.  There is one exception: in extended mode a
comment at the end takes in what stands behind it.

What can be read in the longer text can be read by itself too, unless it goes past
the end of the pattern: what is read there ends with the closing bracket.
-/

namespace FormRules.Pattern.Reader

/-- What stands behind a pattern for whole texts. -/
def closing : List Char := [')', '$']

/-- Two rests of texts: that of a pattern by itself, and the same with more behind
it, unless a comment has taken that in. -/
def Followed (cs ds : List Char) : Prop := ds = cs ++ closing ∨ ds = cs

/-- Equal results with rests of which one is followed by more. -/
def Same {α : Type} (x y : Read α) : Prop := x.1 = y.1 ∧ Followed x.2 y.2

/-- Where the first reading succeeds, so does the second one, with a result in a
relation to the first.  Where the second one succeeds, so does the first, unless the
second one has gone too far. -/
structure Yields {α β : Type} (R : α → β → Prop) (Far : β → Prop) (a : Except PatternFault α)
    (b : Except PatternFault β) : Prop where
  forth : ∀ x, a = .ok x → ∃ y, b = .ok y ∧ R x y
  back : ∀ y, b = .ok y → Far y ∨ ∃ x, a = .ok x ∧ R x y

/-- No reading goes too far. -/
def Never {α : Type} (_ : α) : Prop := False

/-- The closing bracket behind the pattern has been read. -/
def Past {α : Type} (y : Read α) : Prop := y.2 = ['$']

/-- What is left after a reading that succeeds has at most so many characters. -/
def Leaves {α : Type} (k : Nat) (a : Except PatternFault (Read α)) : Prop :=
  ∀ x, a = .ok x → x.2.length ≤ k

section

variable {c : Char} {cs ds : List Char} {f : Flags}

/-! ### Rests -/

theorem followed_append (cs : List Char) : Followed cs (cs ++ closing) := .inl rfl

theorem Followed.refl (cs : List Char) : Followed cs cs := .inr rfl

theorem Followed.cons_append (h : Followed cs ds) (c : Char) : Followed (c :: cs) (c :: ds) := by
  rcases h with rfl | rfl
  · exact .inl rfl
  · exact .inr rfl

theorem Followed.nil (h : Followed [] ds) : ds = closing ∨ ds = [] := h

theorem Followed.cons (h : Followed (c :: cs) ds) : ∃ ds', ds = c :: ds' ∧ Followed cs ds' := by
  rcases h with rfl | rfl
  · exact ⟨cs ++ closing, rfl, .inl rfl⟩
  · exact ⟨cs, rfl, .inr rfl⟩

theorem Followed.of_nil (h : Followed cs []) : cs = [] := by
  rcases h with h | h
  · exact (List.append_eq_nil_iff.1 h.symm).1
  · exact h.symm

/-- Where there is a character left, it is the same in both. -/
theorem Followed.nil_or_cons (h : Followed cs ds) :
    cs = [] ∨ ∃ c cs' ds', cs = c :: cs' ∧ ds = c :: ds' ∧ Followed cs' ds' := by
  cases cs with
  | nil => exact .inl rfl
  | cons c cs =>
      obtain ⟨ds', rfl, hrest⟩ := h.cons
      exact .inr ⟨c, cs, ds', rfl, rfl, hrest⟩

/-- A character other than a closing bracket is not what stands behind. -/
theorem Followed.of_cons (h : Followed cs (c :: ds)) (hc : c ≠ ')') :
    ∃ cs', cs = c :: cs' ∧ Followed cs' ds := by
  cases cs with
  | nil =>
      rcases h.nil with hnil | hnil
      · exact absurd (List.cons.inj hnil).1 hc
      · contradiction
  | cons d cs' =>
      obtain ⟨ds', heq, hrest⟩ := h.cons
      obtain ⟨rfl, rfl⟩ := List.cons.inj heq
      exact ⟨cs', rfl, hrest⟩

theorem Followed.cons_cons {d : Char} (h : Followed (c :: d :: cs) ds) :
    ∃ ds', ds = c :: d :: ds' ∧ Followed cs ds' := by
  obtain ⟨_, rfl, hsecond⟩ := h.cons
  obtain ⟨ds', rfl, hrest⟩ := hsecond.cons
  exact ⟨ds', rfl, hrest⟩

/-! What is not ahead in the text alone is not ahead in the longer one, closing
brackets apart. -/

theorem Followed.ne_nil (h : Followed cs ds) (hno : cs = [] → False) : ds = [] → False := by
  rintro rfl
  exact hno h.of_nil

theorem Followed.ne_cons (h : Followed cs ds) (hc : c ≠ ')')
    (hno : ∀ rest, cs = c :: rest → False) (rest : List Char) : ds = c :: rest → False := by
  rintro rfl
  obtain ⟨cs', hcs, -⟩ := h.of_cons hc
  exact hno cs' hcs

theorem Followed.ne_cons_cons {d : Char} (h : Followed cs ds) (hc : c ≠ ')') (hd : d ≠ ')')
    (hno : ∀ rest, cs = c :: d :: rest → False) (rest : List Char) :
    ds = c :: d :: rest → False := by
  rintro rfl
  obtain ⟨_, rfl, hsecond⟩ := h.of_cons hc
  obtain ⟨cs', rfl, -⟩ := hsecond.of_cons hd
  exact hno cs' rfl

theorem Followed.head?_eq_some_iff (h : Followed cs ds) (hc : c ≠ ')') :
    cs.head? = some c ↔ ds.head? = some c := by
  cases cs with
  | nil =>
      rcases h.nil with rfl | rfl
      · simp [closing, hc.symm]
      · rfl
  | cons d cs =>
      obtain ⟨ds', rfl, -⟩ := h.cons
      rfl

theorem Followed.length_le (h : Followed cs ds) : cs.length ≤ ds.length := by
  rcases h with rfl | rfl
  · rw [List.length_append]
    exact Nat.le_add_right _ _
  · exact Nat.le_refl _

theorem Followed.tail (h : Followed cs ds) (hne : cs ≠ []) : Followed cs.tail ds.tail := by
  obtain ⟨c, cs, rfl⟩ := List.exists_cons_of_ne_nil hne
  obtain ⟨ds', rfl, hrest⟩ := h.cons
  exact hrest

theorem Followed.dropWhile (h : Followed cs ds) {p : Char → Bool} (hp : p ')' = false) :
    Followed (cs.dropWhile p) (ds.dropWhile p) := by
  rcases h with rfl | rfl
  · rw [List.dropWhile_append]
    split
    · next hnil =>
      rw [List.isEmpty_iff] at hnil
      left
      simp [hnil, closing, hp]
    · exact followed_append _
  · exact .refl _

/-- What stands behind is dropped with the last character before it. -/
theorem Followed.dropWhile_closing (h : Followed cs ds) {p : Char → Bool}
    (hbracket : p ')' = true) (hanchor : p '$' = true) :
    Followed (cs.dropWhile p) (ds.dropWhile p) := by
  rcases h with rfl | rfl
  · rw [List.dropWhile_append]
    split
    · next hnil =>
      rw [List.isEmpty_iff] at hnil
      right
      simp [hnil, closing, hbracket, hanchor]
    · exact followed_append _
  · exact .refl _

theorem Followed.takeWhile_eq (h : Followed cs ds) {p : Char → Bool}
    (hne : cs.dropWhile p ≠ []) : cs.takeWhile p = ds.takeWhile p := by
  rcases h with rfl | rfl
  · have hshort : (cs.takeWhile p).length ≠ cs.length := by
      intro hlen
      have hsum := congrArg List.length (List.takeWhile_append_dropWhile (p := p) (l := cs))
      rw [List.length_append, hlen] at hsum
      exact hne (List.length_eq_zero_iff.1 (by omega))
    rw [List.takeWhile_append, if_neg hshort]
  · rfl

theorem Followed.skipBlanks (h : Followed cs ds) (inComment : Bool) :
    Followed (skipBlanks inComment cs) (skipBlanks inComment ds) := by
  rcases h with rfl | rfl
  · induction cs generalizing inComment with
    | nil =>
        -- A comment takes in all that follows, and blanks leave it.
        cases inComment with
        | true => exact .inr rfl
        | false => exact .inl rfl
    | cons c cs ih =>
        simp only [Reader.skipBlanks, List.cons_append]
        split
        · exact ih _
        · split
          · exact ih _
          · split
            · exact ih _
            · exact followed_append _
  · exact .refl _

/-- What does not count is dropped from both. -/
theorem Followed.skip (h : Followed cs ds) (f : Flags) : Followed (skip f cs) (skip f ds) := by
  rw [Reader.skip, Reader.skip]
  split
  · exact h.skipBlanks false
  · exact h

theorem length_skipBlanks_le (inComment : Bool) (cs : List Char) :
    (skipBlanks inComment cs).length ≤ cs.length := by
  induction cs generalizing inComment with
  | nil => exact Nat.le_refl _
  | cons c cs ih =>
      simp only [skipBlanks, List.length_cons]
      split
      · exact Nat.le_succ_of_le (ih _)
      · split
        · exact Nat.le_succ_of_le (ih _)
        · split
          · exact Nat.le_succ_of_le (ih _)
          · exact Nat.le_refl _

theorem length_skip_le (f : Flags) (cs : List Char) : (skip f cs).length ≤ cs.length := by
  rw [skip]
  split
  · exact length_skipBlanks_le false cs
  · exact Nat.le_refl _

@[simp] theorem skip_nil (f : Flags) : skip f [] = [] := by
  unfold skip
  split <;> rfl

/-- What stands behind the pattern is no comment. -/
@[simp] theorem skip_closing (f : Flags) : skip f [')', '$'] = [')', '$'] := by
  unfold skip
  split <;> rfl

@[simp] theorem skip_past (f : Flags) : skip f ['$'] = ['$'] := by
  unfold skip
  split <;> rfl

/-! ### Readings -/

section

variable {α β γ δ : Type} {R : α → β → Prop} {S : γ → δ → Prop} {Far : β → Prop} {Far' : δ → Prop}
  {a : Except PatternFault α} {b : Except PatternFault β}

theorem yields_error {e e' : PatternFault} : Yields R Far (.error e) (.error e') where
  forth x hx := by contradiction
  back y hy := by contradiction

theorem yields_malformed : Yields R Far malformed malformed := yields_error

/-- What is no reading by itself may be one that goes too far. -/
theorem yields_far (h : ∀ y, b = .ok y → Far y) : Yields R Far malformed b where
  forth x hx := by contradiction
  back y hy := .inl (h y hy)

theorem yields_ok {x : α} {y : β} (h : R x y) : Yields R Far (.ok x) (.ok y) where
  forth x' hx := by
    obtain rfl := Except.ok.inj hx
    exact ⟨y, rfl, h⟩
  back y' hy := by
    obtain rfl := Except.ok.inj hy
    exact .inr ⟨x, rfl, h⟩

theorem Yields.mono {Far' : β → Prop} (h : Yields R Far a b) (hfar : ∀ y, Far y → Far' y) :
    Yields R Far' a b where
  forth := h.forth
  back y hy := (h.back y hy).imp_left (hfar y)

theorem Yields.of_never (h : Yields R Never a b) : Yields R Far a b :=
  h.mono fun _ hfar => hfar.elim

/-- Readings one after the other. -/
theorem Yields.bind {g : α → Except PatternFault γ} {k : β → Except PatternFault δ}
    (h : Yields R Far a b) (hfar : ∀ y, Far y → ∀ z, k y = .ok z → Far' z)
    (hrest : ∀ x y, a = .ok x → R x y → Yields S Far' (g x) (k y)) :
    Yields S Far' (a >>= g) (b >>= k) where
  forth z hz := by
    cases a with
    | error e => contradiction
    | ok x =>
        obtain ⟨y, rfl, hxy⟩ := h.forth x rfl
        exact (hrest x y rfl hxy).forth z hz
  back z hz := by
    cases b with
    | error e => contradiction
    | ok y =>
        rcases h.back y rfl with hy | ⟨x, rfl, hxy⟩
        · exact .inl (hfar y hy z hz)
        · exact (hrest x y rfl hxy).back z hz

/-- A reading of the rest after one with the same result. -/
theorem Yields.then {a b : Except PatternFault (Read α)} {g : Read α → Except PatternFault γ}
    {k : Read α → Except PatternFault δ} (h : Yields Same Never a b)
    (hrest : ∀ x cs ds, a = .ok (x, cs) → Followed cs ds →
      Yields S Far' (g (x, cs)) (k (x, ds))) :
    Yields S Far' (a >>= g) (b >>= k) := by
  refine h.bind (fun _ h => h.elim) fun x y hx hxy => ?_
  obtain ⟨x, cs⟩ := x
  obtain ⟨y, ds⟩ := y
  obtain ⟨rfl, hcs⟩ : x = y ∧ Followed cs ds := hxy
  exact hrest x cs ds hx hcs

/-- The same where the first of the two readings may go too far. -/
theorem Yields.thenFar {Far : Read α → Prop} {a b : Except PatternFault (Read α)}
    {g : Read α → Except PatternFault γ} {k : Read α → Except PatternFault δ}
    (h : Yields Same Far a b) (hfar : ∀ x ds, Far (x, ds) → ∀ z, k (x, ds) = .ok z → Far' z)
    (hrest : ∀ x cs ds, a = .ok (x, cs) → Followed cs ds →
      Yields S Far' (g (x, cs)) (k (x, ds))) :
    Yields S Far' (a >>= g) (b >>= k) := by
  refine h.bind (fun y hy => hfar y.1 y.2 hy) fun x y hx hxy => ?_
  obtain ⟨x, cs⟩ := x
  obtain ⟨y, ds⟩ := y
  obtain ⟨rfl, hcs⟩ : x = y ∧ Followed cs ds := hxy
  exact hrest x cs ds hx hcs

theorem Yields.map {g : α → γ} {k : β → δ} (h : Yields R Far a b)
    (hfar : ∀ y, Far y → Far' (k y)) (hrest : ∀ x y, R x y → S (g x) (k y)) :
    Yields S Far' (a.map g) (b.map k) where
  forth z hz := by
    cases a with
    | error e => contradiction
    | ok x =>
        obtain ⟨y, rfl, hxy⟩ := h.forth x rfl
        obtain rfl := Except.ok.inj hz
        exact ⟨k y, rfl, hrest x y hxy⟩
  back z hz := by
    cases b with
    | error e => contradiction
    | ok y =>
        obtain rfl := Except.ok.inj hz
        rcases h.back y rfl with hy | ⟨x, rfl, hxy⟩
        · exact .inl (hfar y hy)
        · exact .inr ⟨g x, rfl, hrest x y hxy⟩

/-- Questions with one answer decide both readings. -/
theorem yields_ite_of_iff {p q : Prop} [Decidable p] [Decidable q] {a' : Except PatternFault α}
    {b' : Except PatternFault β} (hpq : p ↔ q) (h : p → Yields R Far a b)
    (h' : ¬ p → Yields R Far a' b') :
    Yields R Far (if p then a else a') (if q then b else b') := by
  split
  · next hp =>
    rw [if_pos (hpq.1 hp)]
    exact h hp
  · next hp =>
    rw [if_neg (mt hpq.2 hp)]
    exact h' hp

theorem yields_ite {p : Prop} [Decidable p] {a' : Except PatternFault α}
    {b' : Except PatternFault β} (h : p → Yields R Far a b) (h' : ¬ p → Yields R Far a' b') :
    Yields R Far (if p then a else a') (if p then b else b') :=
  yields_ite_of_iff Iff.rfl h h'

end

/-! ### Lengths -/

section

variable {α γ : Type} {j k : Nat} {a : Except PatternFault (Read α)}

theorem leaves_error {e : PatternFault} : Leaves k (.error e : Except PatternFault (Read α)) := by
  intro x hx
  contradiction

theorem leaves_malformed : Leaves k (malformed : Except PatternFault (Read α)) := leaves_error

theorem leaves_ok {x : α} (h : cs.length ≤ k) : Leaves k (.ok (x, cs)) := by
  intro y hy
  obtain rfl := Except.ok.inj hy
  exact h

theorem leaves_ite {p : Prop} [Decidable p] {a' : Except PatternFault (Read α)}
    (h : Leaves k a) (h' : Leaves k a') : Leaves k (if p then a else a') := by
  split
  · exact h
  · exact h'

theorem Leaves.mono (h : Leaves j a) (hjk : j ≤ k) : Leaves k a :=
  fun x hx => (h x hx).trans hjk

theorem Leaves.bind {g : Read α → Except PatternFault (Read γ)} (h : Leaves j a)
    (hrest : ∀ x cs, cs.length ≤ j → Leaves k (g (x, cs))) : Leaves k (a >>= g) := by
  intro z hz
  cases a with
  | error e => contradiction
  | ok x => exact hrest x.1 x.2 (h x rfl) z hz

theorem Leaves.map {g : Read α → Read γ} (h : Leaves k a) (hg : ∀ x, (g x).2 = x.2) :
    Leaves k (a.map g) := by
  intro z hz
  cases a with
  | error e => contradiction
  | ok x =>
      obtain rfl := Except.ok.inj hz
      rw [hg]
      exact h x rfl

end

end

end FormRules.Pattern.Reader
