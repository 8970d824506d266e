import FormRules.Proofs.Pattern.Reader.Range

/-!
# Sets with something behind them

A set that is read by itself is closed, so its end is seen before what stands
behind.  What stands behind the pattern does not close a set, although its characters
can be elements of one.
-/

namespace FormRules.Pattern.Reader

section

variable {c : Char} {cs ds : List Char} {f : Flags} {m n : Nat}

theorem dashes_same (terms : List SetTerm) (h : Followed cs ds) (hcs : cs.length ≤ n)
    (hds : ds.length ≤ m) :
    Same (readSetStart.dashes f n terms cs) (readSetStart.dashes f m terms ds) := by
  have hnil : ∀ n m terms ds, Followed [] ds →
      Same (readSetStart.dashes f n terms []) (readSetStart.dashes f m terms ds) := by
    intro n m terms ds h
    rcases h.nil with rfl | rfl
    · cases n <;> cases m <;> exact ⟨rfl, followed_append []⟩
    · cases n <;> cases m <;> exact ⟨rfl, .refl []⟩
  induction n generalizing terms cs ds m with
  | zero =>
      obtain rfl : cs = [] := List.length_eq_zero_iff.1 (Nat.le_zero.1 hcs)
      exact hnil _ _ _ _ h
  | succ n ih =>
      rcases h.nil_or_cons with rfl | ⟨c, rest, rest', rfl, rfl, hrest⟩
      · exact hnil _ _ _ _ h
      · rw [List.length_cons] at hcs hds
        obtain ⟨m, rfl⟩ : ∃ k, m = k + 1 := Nat.exists_eq_add_one.2 (by omega)
        unfold readSetStart.dashes
        split
        · next tail heq =>
          obtain ⟨rfl, rfl⟩ := List.cons.inj heq
          exact ih _ (hrest.skip f) ((length_skip_le f _).trans (Nat.le_of_succ_le_succ hcs))
            ((length_skip_le f _).trans (Nat.le_of_succ_le_succ hds))
        · next hno =>
          split
          · next tail heq =>
            rw [(List.cons.inj heq).1] at hno
            exact absurd rfl (hno rest)
          · exact ⟨rfl, h⟩

/-- The start of a set after its circumflex and its minus signs. -/
def startSet (f : Flags) (negated : Bool) (terms : List SetTerm) (cs : List Char) :
    Except PatternFault (Read (Bool × List SetTerm)) :=
  match terms, cs with
  | [], ']' :: rest =>
      match skip f rest with
      | [] => malformed
      | rest => .ok ((negated, [plainTerm (.single ']')]), rest)
  | _, [] => malformed
  | _, cs => .ok ((negated, terms), cs)

/-- What is left after the circumflex of a set. -/
def afterCaret (f : Flags) (cs : List Char) : List Char :=
  if cs.head? == some '^' then skip f (cs.drop 1) else cs

/-- The minus signs at the start of a set, and the rest. -/
def startDashes (f : Flags) (cs : List Char) : Read (List SetTerm) :=
  readSetStart.dashes f cs.length [] cs

theorem readSetStart_eq (cs : List Char) : readSetStart f cs =
    startSet f ((skip f cs).head? == some '^') (startDashes f (afterCaret f (skip f cs))).1
      (startDashes f (afterCaret f (skip f cs))).2 := by
  unfold readSetStart startSet startDashes afterCaret
  rfl

theorem length_afterCaret_le (cs : List Char) : (afterCaret f cs).length ≤ cs.length := by
  unfold afterCaret
  split
  · refine (length_skip_le f _).trans ?_
    rw [List.length_drop]
    omega
  · exact Nat.le_refl _

theorem length_dashes_le (n : Nat) (terms : List SetTerm) (cs : List Char) :
    (readSetStart.dashes f n terms cs).2.length ≤ cs.length := by
  induction n generalizing terms cs with
  | zero => exact Nat.le_refl _
  | succ n ih =>
      unfold readSetStart.dashes
      split
      · next rest => exact (ih _ _).trans ((length_skip_le f rest).trans (Nat.le_succ _))
      · exact Nat.le_refl _

theorem startSet_yields (negated : Bool) (terms : List SetTerm) (h : Followed cs ds) :
    Yields Same Over (startSet f negated terms cs) (startSet f negated terms ds) := by
  have hover : ∀ {terms : List SetTerm},
      Yields Same Over malformed (.ok ((negated, terms), closing)) := by
    refine yields_far fun y hy => .inl ?_
    obtain rfl := Except.ok.inj hy
    rfl
  unfold startSet
  split
  · next rest =>
    obtain ⟨rest', rfl, hrest⟩ := h.cons
    simp only
    have hskip := hrest.skip f
    rcases hskip.nil_or_cons with hcs | ⟨c, more, more', hcs, hds, -⟩
    · rw [hcs] at hskip ⊢
      rcases hskip.nil with hds | hds <;> rw [hds]
      · exact hover
      · exact yields_malformed
    · rw [hcs, hds] at hskip ⊢
      exact yields_ok ⟨rfl, hskip⟩
  · rcases h.nil with rfl | rfl
    · have hset : startSet f negated terms closing = .ok ((negated, terms), closing) := by
        cases terms <;> rfl
      unfold startSet at hset
      rw [hset]
      exact hover
    · cases terms <;> exact yields_malformed
  · next hnil hbracket =>
    split
    · next rest => exact (h.ne_cons (by decide) (fun rest => hbracket rest rfl) rest rfl).elim
    · exact (h.ne_nil hnil rfl).elim
    · exact yields_ok ⟨rfl, h⟩

theorem startSet_leaves (negated : Bool) (terms : List SetTerm) (cs : List Char) :
    Leaves cs.length (startSet f negated terms cs) := by
  unfold startSet
  split
  · next rest =>
    have hlen := (length_skip_le f rest).trans (Nat.le_succ _)
    split
    · exact leaves_malformed
    · exact leaves_ok hlen
  · exact leaves_malformed
  · exact leaves_ok (Nat.le_refl _)

theorem readSetStart_yields (h : Followed cs ds) :
    Yields Same Over (readSetStart f cs) (readSetStart f ds) := by
  have hskip := h.skip f
  have hcaret : ((skip f cs).head? == some '^') = ((skip f ds).head? == some '^') := by
    rw [Bool.eq_iff_iff, beq_iff_eq, beq_iff_eq]
    exact hskip.head?_eq_some_iff (by decide)
  have hafter : Followed (afterCaret f (skip f cs)) (afterCaret f (skip f ds)) := by
    rw [afterCaret, afterCaret, ← hcaret]
    split
    · next hhead =>
      obtain ⟨tail, htail⟩ := List.head?_eq_some_iff.1 (beq_iff_eq.1 hhead)
      rw [List.drop_one, List.drop_one]
      exact (hskip.tail (by simp [htail])).skip f
    · exact hskip
  rw [readSetStart_eq, readSetStart_eq, ← hcaret]
  obtain ⟨hterms, hrest⟩ : Same (startDashes f _) (startDashes f _) :=
    dashes_same [] hafter (Nat.le_refl _) (Nat.le_refl _)
  rw [← hterms]
  exact startSet_yields _ _ hrest

theorem readSetStart_leaves (cs : List Char) : Leaves cs.length (readSetStart f cs) := by
  rw [readSetStart_eq]
  refine (startSet_leaves _ _ _).mono ?_
  calc (startDashes f (afterCaret f (skip f cs))).2.length
      ≤ (afterCaret f (skip f cs)).length := length_dashes_le _ _ _
    _ ≤ (skip f cs).length := length_afterCaret_le _
    _ ≤ cs.length := length_skip_le f cs

theorem closeSet_yields {negated : Bool} {set : CharSet} {α : Type} {R : α → α → Prop}
    {Far : α → Prop} {g k : CharSet → Except PatternFault α}
    (h : ∀ set, Yields R Far (g set) (k set)) :
    Yields R Far (closeSet f negated set >>= g) (closeSet f negated set >>= k) := by
  cases closeSet f negated set with
  | error e => exact yields_error
  | ok set => exact h set

theorem closeSet_leaves {negated : Bool} {set : CharSet} {α : Type}
    {g : CharSet → Except PatternFault (Read α)} (h : ∀ set, Leaves n (g set)) :
    Leaves n (closeSet f negated set >>= g) := by
  cases closeSet f negated set with
  | error e => exact leaves_error
  | ok set => exact h set

/-! ### The contents of a set -/

/-- The character that is written twice for an operator. -/
def SetOp.char : SetOp → Char
  | .intersection => '&'
  | .difference => '-'
  | .symmetricDifference => '~'

theorem SetOp.char_ne_bracket (op : SetOp) : op.char ≠ ')' := by
  cases op <;> decide

/-- An element of a set begins with the character: it ends no set and begins none, and
it does not begin an operator. -/
structure BeginsElement (c : Char) (cs : List Char) : Prop where
  notEnd : c ≠ ']'
  notNested : c ≠ '['
  notOperator : ∀ (op : SetOp) rest, c :: cs ≠ op.char :: op.char :: rest

/-- What comes next in a set. -/
inductive SetNext : List Char → Prop
  | nothing : SetNext []
  | close (rest : List Char) : SetNext (']' :: rest)
  | operator (op : SetOp) (rest : List Char) : SetNext (op.char :: op.char :: rest)
  | nested (rest : List Char) : SetNext ('[' :: rest)
  | element {c : Char} {rest : List Char} (h : BeginsElement c rest) : SetNext (c :: rest)

theorem setNext (cs : List Char) : SetNext cs := by
  cases cs with
  | nil => exact .nothing
  | cons c rest =>
      by_cases hend : c = ']'
      · rw [hend]
        exact .close rest
      by_cases hnested : c = '['
      · rw [hnested]
        exact .nested rest
      by_cases hoperator : ∃ (op : SetOp) (rest' : List Char),
          c :: rest = op.char :: op.char :: rest'
      · obtain ⟨op, rest', heq⟩ := hoperator
        rw [heq]
        exact .operator op rest'
      · exact .element ⟨hend, hnested, fun op rest' heq => hoperator ⟨op, rest', heq⟩⟩

/-- What stands behind the pattern does not make an operator of an element. -/
theorem BeginsElement.followed (h : BeginsElement c cs) (hcs : Followed cs ds) :
    BeginsElement c ds where
  notEnd := h.notEnd
  notNested := h.notNested
  notOperator op rest heq := by
    obtain ⟨hc, rfl⟩ := List.cons.inj heq
    obtain ⟨rest', rfl, -⟩ := hcs.of_cons op.char_ne_bracket
    exact h.notOperator op rest' (by rw [hc])

/-- What stands behind a pattern begins an element. -/
theorem beginsElement_behind (hc : c = ')' ∨ c = '$') : BeginsElement c cs where
  notEnd := by rcases hc with rfl | rfl <;> decide
  notNested := by rcases hc with rfl | rfl <;> decide
  notOperator op rest heq := by
    obtain ⟨hop, -⟩ := List.cons.inj heq
    rcases hc with rfl | rfl <;> cases op <;> exact absurd hop (by decide)

section

variable {left : Option (SetOp × SetTerm)} {terms : List SetTerm} {rest : List Char}

theorem readSetBody_nothing (h : skip f cs = []) :
    readSetBody f (n + 1) left terms cs = malformed := by
  rw [readSetBody, h]

theorem readSetBody_close (h : skip f cs = ']' :: rest) :
    readSetBody f (n + 1) left terms cs = .ok (combine left (unionTerm f terms), rest) := by
  rw [readSetBody, h]
  rfl

theorem readSetBody_operator {op : SetOp} (h : skip f cs = op.char :: op.char :: rest) :
    readSetBody f (n + 1) left terms cs =
      readSetBody f n (some (op, combine left (unionTerm f terms))) [] rest := by
  rw [readSetBody, h]
  cases op <;> rfl

theorem readSetBody_class {negated : Bool} {set : CharSet} {after : List Char}
    (h : skip f cs = '[' :: rest) (hclass : asciiClassAt? rest = some (negated, set, after)) :
    readSetBody f (n + 1) left terms cs = (closeSet f negated (foldCase f set) >>= fun set =>
      readSetBody f n left (⟨set, 0, true⟩ :: terms) after) := by
  rw [readSetBody, h]
  simp only [hclass]

theorem readSetBody_nested (h : skip f cs = '[' :: rest) (hclass : asciiClassAt? rest = none) :
    readSetBody f (n + 1) left terms cs = (readSetStart f rest >>= fun start =>
      readSetBody f n none start.1.2 start.2 >>= fun term =>
        closeSet f start.1.1 term.1.set >>= fun set =>
          readSetBody f n left (⟨set, term.1.depth + 1, true⟩ :: terms) term.2) := by
  rw [readSetBody, h]
  simp only [hclass]

theorem readSetBody_element (h : skip f cs = c :: rest) (hc : BeginsElement c rest) :
    readSetBody f (n + 1) left terms cs = (readRange f (c :: rest) >>= fun set =>
      readSetBody f n left (plainTerm set.1 :: terms) set.2) := by
  rw [readSetBody, h]
  split
  · contradiction
  · next heq => exact absurd (List.cons.inj heq).1 hc.notEnd
  · next heq => exact absurd heq (hc.notOperator .intersection _)
  · next heq => exact absurd heq (hc.notOperator .difference _)
  · next heq => exact absurd heq (hc.notOperator .symmetricDifference _)
  · next heq => exact absurd (List.cons.inj heq).1 hc.notNested
  · rfl

end

/-- A set is not closed by what stands behind the pattern. -/
theorem readSetBody_behind (n : Nat) (left : Option (SetOp × SetTerm)) (terms : List SetTerm)
    (h : Behind (skip f ds)) : ∃ e, readSetBody f n left terms ds = .error e := by
  -- A dollar sign that ends the text is no element, as the set would have to go on.
  have hpast : ∀ n terms ds, skip f ds = ['$'] → ∃ e, readSetBody f n left terms ds = .error e := by
    intro n terms ds hds
    cases n with
    | zero => exact ⟨_, readSetBody_zero f left terms ds⟩
    | succ n =>
        rw [readSetBody_element hds (beginsElement_behind (.inr rfl)), readRange_past]
        exact ⟨_, rfl⟩
  cases n with
  | zero => exact ⟨_, readSetBody_zero f left terms ds⟩
  | succ n =>
      rcases h with hds | hds | hds
      · rw [readSetBody_element hds (beginsElement_behind (.inl rfl)), ← closing]
        cases hfirst : readRange f closing with
        | error e => exact ⟨e, rfl⟩
        | ok x => exact hpast n _ _ (by rw [rest_of_readRange_closing hfirst, skip_past])
      · exact hpast (n + 1) terms ds hds
      · exact ⟨_, readSetBody_nothing hds⟩

/-- The contents of a set take one character at least. -/
theorem readSetBody_leaves (n : Nat) (left : Option (SetOp × SetTerm)) (terms : List SetTerm)
    (cs : List Char) : Leaves (cs.length - 1) (readSetBody f n left terms cs) := by
  induction n generalizing left terms cs with
  | zero =>
      rw [readSetBody_zero]
      exact leaves_malformed
  | succ n ih =>
      have hlen := length_skip_le f cs
      have hnext := setNext (skip f cs)
      generalize hcs : skip f cs = tail at hnext hlen
      cases hnext with
      | nothing =>
          rw [readSetBody_nothing hcs]
          exact leaves_malformed
      | close rest =>
          rw [readSetBody_close hcs]
          rw [List.length_cons] at hlen
          exact leaves_ok (by omega)
      | operator op rest =>
          rw [readSetBody_operator hcs]
          rw [List.length_cons, List.length_cons] at hlen
          exact (ih _ _ _).mono (by omega)
      | nested rest =>
          rw [List.length_cons] at hlen
          cases hclass : asciiClassAt? rest with
          | some x =>
              rw [readSetBody_class hcs hclass]
              have hafter := length_of_asciiClassAt? hclass
              exact closeSet_leaves fun set => (ih _ _ _).mono (by omega)
          | none =>
              rw [readSetBody_nested hcs hclass]
              refine (readSetStart_leaves rest).bind fun start cs hstart => ?_
              refine (ih none start.2 cs).bind fun term cs hterm => ?_
              exact closeSet_leaves fun set => (ih _ _ cs).mono (by omega)
      | element hc =>
          rw [readSetBody_element hcs hc]
          exact (readRange_leaves _).bind fun set cs hrange => (ih _ _ cs).mono (by omega)

/-- Contents of sets with fewer than `n` characters are read in the longer text as they are
by themselves. -/
def BodiesYield (f : Flags) (n m : Nat) : Prop :=
  ∀ left terms cs ds, Followed cs ds → cs.length < n →
    Yields Same Never (readSetBody f n left terms cs) (readSetBody f m left terms ds)

section

variable {left : Option (SetOp × SetTerm)} {terms : List SetTerm} {rest rest' : List Char}

/-- The text alone is at its end, so the set is not closed in either text. -/
theorem nothing_yields (hcs : skip f cs = []) (hskip : Followed (skip f cs) (skip f ds)) :
    Yields Same Never (readSetBody f (n + 1) left terms cs) (readSetBody f m left terms ds) := by
  rw [hcs] at hskip
  rw [readSetBody_nothing hcs]
  obtain ⟨e, he⟩ := readSetBody_behind m left terms hskip.behind
  refine yields_far fun y hy => ?_
  rw [he] at hy
  contradiction

/-- A set in the set, and what comes after it. -/
theorem nested_yields (h : BodiesYield f n m) (hcs : skip f cs = '[' :: rest)
    (hds : skip f ds = '[' :: rest') (hrest : Followed rest rest') (hlen : rest.length < n) :
    Yields Same Never (readSetBody f (n + 1) left terms cs)
      (readSetBody f (m + 1) left terms ds) := by
  rcases asciiClassAt?_same hrest with ⟨hnone, hnone'⟩ | ⟨negated, set, _, _, hs, hs', hafter⟩
  · rw [readSetBody_nested hcs hnone, readSetBody_nested hds hnone']
    refine (readSetStart_yields hrest).thenFar ?_ fun start cs ds hstart hrest => ?_
    · -- A set that begins behind the pattern is not closed there.
      intro start ds hover y hy
      obtain ⟨e, he⟩ := readSetBody_behind m none start.2 (hover.skip (f := f))
      simp only [he] at hy
      contradiction
    have hcs : cs.length ≤ rest.length := readSetStart_leaves _ _ hstart
    refine (h none start.2 cs ds hrest (by omega)).then fun term cs' ds hterm hrest => ?_
    have hcs' : cs'.length ≤ cs.length - 1 := readSetBody_leaves _ _ _ _ _ hterm
    exact closeSet_yields fun set => h _ _ cs' ds hrest (by omega)
  · rw [readSetBody_class hcs hs, readSetBody_class hds hs']
    have hclass := length_of_asciiClassAt? hs
    exact closeSet_yields fun set => h _ _ _ _ hafter (by omega)

/-- An element of the set, and what comes after it. -/
theorem element_yields (h : BodiesYield f n m) (hcs : skip f cs = c :: rest)
    (hds : skip f ds = c :: rest') (hrest : Followed rest rest') (hc : BeginsElement c rest)
    (hlen : rest.length < n) :
    Yields Same Never (readSetBody f (n + 1) left terms cs)
      (readSetBody f (m + 1) left terms ds) := by
  rw [readSetBody_element hcs hc, readSetBody_element hds (hc.followed hrest)]
  refine (readRange_yields (hrest.cons_append c)).thenFar ?_ fun set cs ds hset hrest => ?_
  · -- A range that goes past the end of the pattern leaves the set open.
    intro set ds hover y hy
    obtain ⟨e, he⟩ := readSetBody_behind m left (plainTerm set :: terms) (hover.skip (f := f))
    simp only [he] at hy
    contradiction
  · have hrange : cs.length ≤ rest.length := readRange_leaves _ _ hset
    exact h _ _ cs ds hrest (by omega)

end

theorem bodiesYield (h : n ≤ m) : BodiesYield f n m := by
  -- The induction is on the fuel for the text alone; the longer text may have more, and
  -- both spend one unit on what comes next.
  induction n generalizing m with
  | zero => exact fun _ _ _ _ _ hlen => absurd hlen (Nat.not_lt_zero _)
  | succ n ih =>
      obtain ⟨m, rfl⟩ : ∃ k, m = k + 1 := Nat.exists_eq_add_one.2 (by omega)
      have hbodies : BodiesYield f n m := ih (Nat.le_of_succ_le_succ h)
      intro left terms cs ds hfollowed henough
      have hskip := hfollowed.skip f
      have hlen := length_skip_le f cs
      have hnext := setNext (skip f cs)
      generalize hcs : skip f cs = tail at hnext
      cases hnext with
      | nothing => exact nothing_yields hcs hskip
      | close rest =>
          rw [hcs] at hskip
          obtain ⟨rest', hds, hrest⟩ := hskip.cons
          rw [readSetBody_close hcs, readSetBody_close hds]
          exact yields_ok ⟨rfl, hrest⟩
      | operator op rest =>
          rw [hcs] at hskip
          obtain ⟨rest', hds, hrest⟩ := hskip.cons_cons
          rw [readSetBody_operator hcs, readSetBody_operator hds]
          rw [hcs, List.length_cons, List.length_cons] at hlen
          exact hbodies _ _ _ _ hrest (by omega)
      | nested rest =>
          rw [hcs] at hskip
          obtain ⟨rest', hds, hrest⟩ := hskip.cons
          rw [hcs, List.length_cons] at hlen
          exact nested_yields hbodies hcs hds hrest (by omega)
      | @element c rest hc =>
          rw [hcs] at hskip
          obtain ⟨rest', hds, hrest⟩ := hskip.cons
          rw [hcs, List.length_cons] at hlen
          exact element_yields hbodies hcs hds hrest hc (by omega)

theorem readSet_yields (h : Followed cs ds) : Yields Same Never (readSet f cs) (readSet f ds) := by
  refine (readSetStart_yields h).thenFar ?_ fun start cs ds _ hrest => ?_
  · intro start ds hover y hy
    obtain ⟨e, he⟩ := readSetBody_behind (ds.length + 1) none start.2 (hover.skip (f := f))
    simp only [he] at hy
    contradiction
  refine (bodiesYield (Nat.succ_le_succ hrest.length_le) none start.2 cs ds hrest
    (Nat.lt_succ_self _)).then fun term cs ds _ hrest => ?_
  exact closeSet_yields fun set => yields_ok ⟨rfl, hrest⟩

theorem readSet_leaves (cs : List Char) : Leaves cs.length (readSet f cs) := by
  refine (readSetStart_leaves cs).bind fun start rest hstart => ?_
  refine (readSetBody_leaves _ none start.2 rest).bind fun term rest' hterm => ?_
  exact closeSet_leaves fun set => leaves_ok (by omega)

end

end FormRules.Pattern.Reader
