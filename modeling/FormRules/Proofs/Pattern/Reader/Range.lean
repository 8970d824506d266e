import FormRules.Proofs.Pattern.Reader.Escape

/-!
# Elements of sets with something behind them

A set in brackets lists characters, classes and ranges.  A range looks ahead by one
character at its minus sign, without regard to what stands behind the pattern.  At the
end of the pattern the closing bracket behind it can be taken for an element, and an
element is complete there even though its set is not.
-/

namespace FormRules.Pattern.Reader

/-- Nothing is left but what stands behind the pattern, or an end of that. -/
def Behind (ds : List Char) : Prop := ds = closing ∨ ds = ['$'] ∨ ds = []

/-- A reading that leaves nothing else. -/
def Over {α : Type} (y : Read α) : Prop := Behind y.2

section

variable {cs ds : List Char} {f : Flags} {m n : Nat}

theorem Behind.skip (h : Behind ds) : Behind (skip f ds) := by
  rcases h with rfl | rfl | rfl
  · exact .inl (skip_closing f)
  · exact .inr (.inl (skip_past f))
  · exact .inr (.inr (skip_nil f))

theorem Followed.behind (h : Followed [] ds) : Behind ds := h.imp_right .inr

/-- The rest of a named class after its colon and its circumflex. -/
def nameClass? (negated : Bool) (cs : List Char) : Option (Bool × CharSet × List Char) :=
  match cs.dropWhile (· != ':') with
  | ':' :: ']' :: rest =>
      (asciiClass? (String.ofList (cs.takeWhile (· != ':')))).map fun set => (negated, set, rest)
  | _ => none

theorem asciiClassAt?_colon (cs : List Char) : asciiClassAt? (':' :: cs) =
    nameClass? (cs.head? == some '^') (if cs.head? == some '^' then cs.drop 1 else cs) := rfl

theorem asciiClassAt?_of_ne {c : Char} (hc : c ≠ ':') : asciiClassAt? (c :: cs) = none := by
  unfold asciiClassAt?
  split
  · next heq => exact absurd (List.cons.inj heq).1 hc
  · rfl

/-- There is a class in both texts, and the rest of one is followed by more, or
there is none in either. -/
def SameClass (x y : Option (Bool × CharSet × List Char)) : Prop :=
  (x = none ∧ y = none) ∨ ∃ negated set rest rest',
    x = some (negated, set, rest) ∧ y = some (negated, set, rest') ∧ Followed rest rest'

theorem nameClass?_same (negated : Bool) (h : Followed cs ds) :
    SameClass (nameClass? negated cs) (nameClass? negated ds) := by
  have hdrop := h.dropWhile_closing (p := (· != ':')) rfl rfl
  have htake : cs.dropWhile (· != ':') ≠ [] → _ := h.takeWhile_eq (p := (· != ':'))
  unfold nameClass?
  split
  · next rest hcs =>
    rw [hcs] at hdrop
    obtain ⟨rest', hds, hrest⟩ := hdrop.cons_cons
    rw [hds, ← htake (by simp [hcs])]
    simp only
    cases asciiClass? (String.ofList (cs.takeWhile (· != ':'))) with
    | none => exact .inl ⟨rfl, rfl⟩
    | some set => exact .inr ⟨negated, set, rest, rest', rfl, rfl, hrest⟩
  · next hno =>
    split
    · next rest hds =>
      exact (hdrop.ne_cons_cons (by decide) (by decide) hno rest hds).elim
    · exact .inl ⟨rfl, rfl⟩

theorem asciiClassAt?_same (h : Followed cs ds) :
    SameClass (asciiClassAt? cs) (asciiClassAt? ds) := by
  rcases h.nil_or_cons with rfl | ⟨c, rest, rest', rfl, rfl, hrest⟩
  · rcases h.nil with rfl | rfl <;> exact .inl ⟨rfl, rfl⟩
  · by_cases hcolon : c = ':'
    · subst hcolon
      have hcaret : (rest.head? == some '^') = (rest'.head? == some '^') := by
        rw [Bool.eq_iff_iff, beq_iff_eq, beq_iff_eq]
        exact hrest.head?_eq_some_iff (by decide)
      rw [asciiClassAt?_colon, asciiClassAt?_colon, ← hcaret]
      apply nameClass?_same
      split
      · next hhead =>
        obtain ⟨tail, rfl⟩ := List.head?_eq_some_iff.1 (beq_iff_eq.1 hhead)
        rw [List.drop_one, List.drop_one]
        exact hrest.tail (by simp)
      · exact hrest
    · rw [asciiClassAt?_of_ne hcolon, asciiClassAt?_of_ne hcolon]
      exact .inl ⟨rfl, rfl⟩

theorem length_of_nameClass? {negated negated' : Bool} {set : CharSet} {rest : List Char}
    (h : nameClass? negated cs = some (negated', set, rest)) : rest.length ≤ cs.length := by
  have hlen := (cs.dropWhile_suffix (· != ':')).length_le
  unfold nameClass? at h
  split at h
  · next tail hcs =>
    rw [hcs, List.length_cons, List.length_cons] at hlen
    obtain ⟨set', -, heq⟩ := Option.map_eq_some_iff.1 h
    obtain rfl : tail = rest := (Prod.mk.inj (Prod.mk.inj heq).2).2
    omega
  · contradiction

theorem length_of_asciiClassAt? {negated : Bool} {set : CharSet} {rest : List Char}
    (h : asciiClassAt? cs = some (negated, set, rest)) : rest.length ≤ cs.length := by
  cases cs with
  | nil => contradiction
  | cons c cs =>
      by_cases hcolon : c = ':'
      · subst hcolon
        rw [asciiClassAt?_colon] at h
        refine (length_of_nameClass? h).trans ?_
        split
        · rw [List.length_drop, List.length_cons]
          omega
        · exact Nat.le_succ _
      · rw [asciiClassAt?_of_ne hcolon] at h
        contradiction

theorem readElement_plain {c : Char} (hc : c ≠ '\\') : readElement f (c :: cs) =
    if f.unicode || c.toNat < 0x80 then .ok (.char c, cs) else malformed := by
  unfold readElement
  split
  · contradiction
  · next heq => exact absurd (List.cons.inj heq).1 hc
  · next heq =>
    obtain ⟨rfl, rfl⟩ := List.cons.inj heq
    rfl

/-- An escape as an element of a set. -/
def escapedElement (f : Flags) (x : Read Escape) : Except PatternFault (Read Element) :=
  match x with
  | (.char c _, rest) => if f.unicode || c.toNat < 0x80 then .ok (.char c, rest) else malformed
  | (.set s, rest) => .ok (.set s, rest)
  | (.anchor _, _) => malformed

theorem readElement_slash (cs : List Char) :
    readElement f ('\\' :: cs) = readEscape f cs >>= escapedElement f := rfl

theorem escapedElement_yields (e : Escape) (h : Followed cs ds) :
    Yields Same Past (escapedElement f (e, cs)) (escapedElement f (e, ds)) := by
  cases e with
  | char c byte => exact yields_ite (fun _ => yields_ok ⟨rfl, h⟩) fun _ => yields_malformed
  | set s => exact yields_ok ⟨rfl, h⟩
  | anchor a => exact yields_malformed

/-- An escape leaves to its element what it has left itself. -/
theorem rest_of_escapedElement {x : Read Escape} {y : Read Element}
    (h : escapedElement f x = .ok y) : y.2 = x.2 ∧ ∀ a, x.1 ≠ .anchor a := by
  obtain ⟨e, rest⟩ := x
  cases e with
  | char c byte =>
      simp only [escapedElement] at h
      split at h
      · obtain rfl := Except.ok.inj h
        exact ⟨rfl, fun a ha => by contradiction⟩
      · contradiction
  | set s =>
      obtain rfl := Except.ok.inj h
      exact ⟨rfl, fun a ha => by contradiction⟩
  | anchor a => contradiction

theorem readElement_yields (h : Followed cs ds) :
    Yields Same Past (readElement f cs) (readElement f ds) := by
  rcases h.nil_or_cons with rfl | ⟨c, rest, rest', rfl, rfl, hrest⟩
  · rcases h.nil with rfl | rfl
    · -- The bracket behind the pattern would be an element.
      refine yields_far fun y hy => ?_
      rw [closing, readElement_plain (by decide)] at hy
      split at hy
      · obtain rfl := Except.ok.inj hy
        rfl
      · contradiction
    · exact yields_malformed
  · by_cases hslash : c = '\\'
    · subst hslash
      rw [readElement_slash, readElement_slash]
      refine (readEscape_yields hrest).thenFar ?_ fun e _ _ _ hrest => escapedElement_yields e hrest
      intro e ds hfar y hy
      obtain ⟨hy, hanchor⟩ := rest_of_escapedElement hy
      rcases hfar with hpast | ⟨⟨a, ha⟩, -⟩
      · exact hy.trans hpast
      · exact absurd ha (hanchor a)
    · rw [readElement_plain hslash, readElement_plain hslash]
      exact yields_ite (fun _ => yields_ok ⟨rfl, hrest⟩) fun _ => yields_malformed

/-- An element takes one character at least. -/
theorem readElement_leaves (cs : List Char) : Leaves (cs.length - 1) (readElement f cs) := by
  rcases cs with _ | ⟨c, rest⟩
  · exact leaves_malformed
  · by_cases hslash : c = '\\'
    · subst hslash
      rw [readElement_slash]
      rcases rest with _ | ⟨c, rest⟩
      · exact leaves_malformed
      · refine (readEscape_leaves c rest).bind fun e cs hcs y hy => ?_
        rw [(rest_of_escapedElement hy).1]
        exact Nat.le_succ_of_le hcs
    · rw [readElement_plain hslash]
      exact leaves_ite (leaves_ok (Nat.le_refl _)) leaves_malformed

/-- The first character that counts, if number signs are passed over. -/
def counted (cs : List Char) : List Char :=
  match cs.dropWhile Text.isBlank with
  | '#' :: rest => rest.dropWhile Text.isBlank
  | rest => rest

theorem peek_extended (hf : f.extended = true) (cs : List Char) :
    peek f cs = (counted cs).head?.or cs.head? := by
  unfold peek
  rw [if_pos hf]
  dsimp only
  split
  · next c rest hcounted =>
    change counted cs = c :: rest at hcounted
    rw [hcounted]
    rfl
  · next hcounted =>
    change counted cs = [] at hcounted
    rw [hcounted]
    rfl

theorem counted_followed (h : Followed cs ds) : Followed (counted cs) (counted ds) := by
  have hdrop := h.dropWhile (p := Text.isBlank) (by decide)
  unfold counted
  split
  · next rest hcs =>
    rw [hcs] at hdrop
    obtain ⟨rest', hds, hrest⟩ := hdrop.cons
    rw [hds]
    exact hrest.dropWhile (by decide)
  · next hno =>
    split
    · next rest hds =>
      exact (hdrop.ne_cons (by decide) hno rest hds).elim
    · exact hdrop

/-- Where nothing counts any more, all is blank but for a comment. -/
theorem head?_of_counted (h : counted cs = []) {c : Char} (hc : cs.head? = some c) :
    Text.isBlank c = true ∨ c = '#' := by
  obtain ⟨rest, rfl⟩ := List.head?_eq_some_iff.1 hc
  by_cases hblank : Text.isBlank c = true
  · exact .inl hblank
  · right
    unfold counted at h
    rw [List.dropWhile_cons_of_neg hblank] at h
    split at h
    · next heq => exact (List.cons.inj heq).1
    · contradiction

/-- The next character that counts is neither of those that a set looks ahead for. -/
def PeeksOther (f : Flags) (cs : List Char) : Prop :=
  peek f cs ≠ some ']' ∧ peek f cs ≠ some '-'

theorem peeksOther_of_counted (h : counted cs = []) (hf : f.extended = true) :
    PeeksOther f cs := by
  rw [PeeksOther, peek_extended hf, h]
  constructor
  · intro hbracket
    exact absurd (head?_of_counted h hbracket) (by decide)
  · intro hminus
    exact absurd (head?_of_counted h hminus) (by decide)

/-- The next character that counts is the same, unless nothing counts by itself
any more. -/
theorem peek_eq_or (h : Followed cs ds) :
    peek f cs = peek f ds ∨ PeeksOther f cs ∧ PeeksOther f ds := by
  cases hf : f.extended with
  | false =>
      have hpeek : ∀ cs, peek f cs = cs.head? := fun cs => by simp [peek, hf]
      rcases h.nil_or_cons with rfl | ⟨c, rest, rest', rfl, rfl, -⟩
      · rcases h.nil with rfl | rfl
        · right
          simp [PeeksOther, hpeek, closing]
        · exact .inl rfl
      · rw [hpeek, hpeek]
        exact .inl rfl
  | true =>
      have hcounted := counted_followed h
      rcases hcounted.nil_or_cons with hnil | ⟨c, rest, rest', hcs, hds, -⟩
      · refine .inr ⟨peeksOther_of_counted hnil hf, ?_⟩
        rw [hnil] at hcounted
        rcases hcounted.nil with hds | hds
        · simp [PeeksOther, peek_extended hf, hds, closing]
        · exact peeksOther_of_counted hds hf
      · rw [peek_extended hf, peek_extended hf, hcs, hds]
        exact .inl rfl

/-- Both texts have a minus sign or a closing bracket next, or none of them has. -/
theorem peek_iff (h : Followed cs ds) : (peek f cs = some ']' ∨ peek f cs = some '-') ↔
    (peek f ds = some ']' ∨ peek f ds = some '-') := by
  rcases peek_eq_or (f := f) h with hpeek | ⟨hother, hother'⟩
  · rw [hpeek]
  · exact iff_of_false (not_or.2 hother) (not_or.2 hother')

/-- The set of one element. -/
def Element.alone : Element → CharSet
  | .char c => .single c
  | .set s => s

/-- A range from its two ends, of which only characters make one. -/
def rangeTo (first last : Element) (rest : List Char) : Except PatternFault (Read CharSet) :=
  match first, last with
  | .char a, .char b =>
      if a.toNat ≤ b.toNat then .ok (.range a.toNat b.toNat, rest) else malformed
  | _, _ => malformed

/-- What follows the first element of a range. -/
def rangeFrom (f : Flags) (first : Element) (cs : List Char) :
    Except PatternFault (Read CharSet) :=
  match cs with
  | [] => malformed
  | '-' :: more =>
      if peek f more = some ']' ∨ peek f more = some '-' then
        .ok (first.alone, '-' :: more)
      else
        readElement f (skip f more) >>= fun x => rangeTo first x.1 x.2
  | rest => .ok (first.alone, rest)

theorem readRange_eq (cs : List Char) :
    readRange f cs = readElement f cs >>= fun x => rangeFrom f x.1 (skip f x.2) := by
  unfold readRange rangeFrom Element.alone
  rfl

theorem rangeTo_yields (first last : Element) (h : Followed cs ds) :
    Yields Same Over (rangeTo first last cs) (rangeTo first last ds) := by
  cases first with
  | set s => exact yields_malformed
  | char a =>
      cases last with
      | set s => exact yields_malformed
      | char b => exact yields_ite (fun _ => yields_ok ⟨rfl, h⟩) fun _ => yields_malformed

theorem rest_of_rangeTo {first last : Element} {y : Read CharSet}
    (h : rangeTo first last cs = .ok y) : y.2 = cs := by
  cases first with
  | set s => contradiction
  | char a =>
      cases last with
      | set s => contradiction
      | char b =>
          simp only [rangeTo] at h
          split at h
          · obtain rfl := Except.ok.inj h
            rfl
          · contradiction

theorem rangeFrom_yields (first : Element) (h : Followed cs ds) :
    Yields Same Over (rangeFrom f first cs) (rangeFrom f first ds) := by
  unfold rangeFrom
  split
  · rcases h.nil with rfl | rfl
    · refine yields_far fun y hy => .inl ?_
      obtain rfl := Except.ok.inj hy
      rfl
    · exact yields_malformed
  · next more =>
    obtain ⟨more', rfl, hmore⟩ := h.cons
    simp only
    refine yields_ite_of_iff (peek_iff hmore) (fun _ => yields_ok ⟨rfl, hmore.cons_append '-'⟩)
      fun _ => ?_
    refine (readElement_yields (hmore.skip f)).thenFar ?_ fun last _ _ _ hrest =>
      rangeTo_yields first last hrest
    intro last ds hpast y hy
    exact .inr (.inl ((rest_of_rangeTo hy).trans hpast))
  · next hnil hminus =>
    split
    · exact (h.ne_nil hnil rfl).elim
    · next more => exact (h.ne_cons (by decide) hminus more rfl).elim
    · exact yields_ok ⟨rfl, h⟩

theorem rangeFrom_leaves (first : Element) (cs : List Char) :
    Leaves cs.length (rangeFrom f first cs) := by
  unfold rangeFrom
  split
  · exact leaves_malformed
  · next more =>
    refine leaves_ite (leaves_ok (Nat.le_refl _)) ?_
    refine (readElement_leaves (skip f more)).bind fun last cs hcs y hy => ?_
    have hrest : y.2 = cs := rest_of_rangeTo hy
    have hlen := length_skip_le f more
    rw [hrest, List.length_cons]
    omega
  · exact leaves_ok (Nat.le_refl _)

theorem rangeFrom_past (first : Element) : rangeFrom f first ['$'] = .ok (first.alone, ['$']) := rfl

theorem readRange_yields (h : Followed cs ds) :
    Yields Same Over (readRange f cs) (readRange f ds) := by
  rw [readRange_eq, readRange_eq]
  refine (readElement_yields h).thenFar ?_ fun first _ _ _ hrest =>
    rangeFrom_yields first (hrest.skip f)
  rintro first ds hpast y hy
  obtain rfl : ds = ['$'] := hpast
  simp only [skip_past, rangeFrom_past] at hy
  obtain rfl := Except.ok.inj hy
  exact .inr (.inl rfl)

theorem readRange_past : readRange f ['$'] = malformed := by
  rw [readRange_eq, readElement_plain (by decide)]
  split
  · simp only [bind, Except.bind, skip_nil]
    rfl
  · rfl

theorem rest_of_readRange_closing {y : Read CharSet} (h : readRange f closing = .ok y) :
    y.2 = ['$'] := by
  rw [readRange_eq, closing, readElement_plain (by decide)] at h
  split at h
  · simp only [bind, Except.bind, skip_past, rangeFrom_past] at h
    obtain rfl := Except.ok.inj h
    rfl
  · contradiction

/-- A range takes one character at least. -/
theorem readRange_leaves (cs : List Char) : Leaves (cs.length - 1) (readRange f cs) := by
  rw [readRange_eq]
  refine (readElement_leaves cs).bind fun first rest hrest => ?_
  exact (rangeFrom_leaves first _).mono ((length_skip_le f rest).trans hrest)

end

end FormRules.Pattern.Reader
