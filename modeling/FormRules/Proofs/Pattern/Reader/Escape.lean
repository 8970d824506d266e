import FormRules.Proofs.Pattern.Reader.Scan

/-!
# Escapes with something behind them

An escape is read to its end: to its last digit, to a closing brace, or to its only
letter.  A backslash at the end of a pattern escapes the closing bracket behind it, and
an edge of a word that is followed by a brace looks at the character behind the brace,
which there is none of at the end of the pattern.
-/

namespace FormRules.Pattern.Reader

/-- Only a brace is left before what stands behind the pattern. -/
def Dangles (f : Flags) (ds : List Char) : Prop :=
  ∃ rest, ds = '{' :: rest ∧ skip f rest = closing

section

variable {cs ds : List Char} {f : Flags} {m n : Nat}

theorem readHexDigits_yields (count value : Nat) (h : Followed cs ds) :
    Yields Same Never (readHexDigits f count value cs) (readHexDigits f count value ds) := by
  induction count generalizing cs ds value with
  | zero => exact yields_ok ⟨rfl, h⟩
  | succ count ih =>
      cases cs with
      | nil => rcases h.nil with rfl | rfl <;> exact yields_malformed
      | cons c cs =>
          obtain ⟨ds, rfl, hrest⟩ := h.cons
          simp only [readHexDigits]
          split
          · exact ih _ (hrest.skip f)
          · exact yields_malformed

theorem readHexDigits_leaves (count value : Nat) (cs : List Char) :
    Leaves cs.length (readHexDigits f count value cs) := by
  induction count generalizing cs value with
  | zero => exact leaves_ok (Nat.le_refl _)
  | succ count ih =>
      cases cs with
      | nil => exact leaves_malformed
      | cons c cs =>
          simp only [readHexDigits]
          split
          · exact (ih _ _).mono ((length_skip_le f cs).trans (Nat.le_succ _))
          · exact leaves_malformed

/-- More fuel changes nothing where there is enough. -/
theorem readHexBraced_yields (digits value : Nat) (h : Followed cs ds) (hfuel : n ≤ m)
    (henough : cs.length < n) :
    Yields Same Never (readHexBraced f n digits value cs) (readHexBraced f m digits value ds) := by
  induction n generalizing cs ds m digits value with
  | zero => exact absurd henough (Nat.not_lt_zero _)
  | succ n ih =>
      obtain ⟨m, rfl⟩ : ∃ k, m = k + 1 := Nat.exists_eq_add_one.2 (by omega)
      have hskip := h.skip f
      simp only [readHexBraced]
      rcases hskip.nil_or_cons with hcs | ⟨c, rest, rest', hcs, hds, hrest⟩
      · rw [hcs] at hskip ⊢
        rcases hskip.nil with hds | hds <;> rw [hds] <;> exact yields_malformed
      · have hlen := length_skip_le f cs
        rw [hcs, List.length_cons] at hlen
        rw [hcs, hds]
        by_cases hbrace : c = '}'
        · subst hbrace
          exact yields_ite (fun _ => yields_malformed) fun _ => yields_ok ⟨rfl, hrest.skip f⟩
        · simp only
          split
          · exact ih _ _ hrest (Nat.le_of_succ_le_succ hfuel) (by omega)
          · exact yields_malformed

theorem readHexBraced_leaves (n digits value : Nat) (cs : List Char) :
    Leaves cs.length (readHexBraced f n digits value cs) := by
  induction n generalizing cs digits value with
  | zero => exact leaves_malformed
  | succ n ih =>
      have hlen := length_skip_le f cs
      simp only [readHexBraced]
      split
      · next rest hcs =>
        rw [hcs, List.length_cons] at hlen
        split
        · exact leaves_malformed
        · exact leaves_ok ((length_skip_le f rest).trans (Nat.le_of_succ_le hlen))
      · next hcs =>
        rw [hcs, List.length_cons] at hlen
        split
        · exact (ih _ _ _).mono (Nat.le_of_succ_le hlen)
        · exact leaves_malformed
      · exact leaves_malformed

theorem readHex_yields (width : Nat) (h : Followed cs ds) :
    Yields Same Never (readHex f width cs) (readHex f width ds) := by
  have hskip := h.skip f
  unfold readHex
  extract_lets finish
  have hfinish : ∀ n byte cs ds, Followed cs ds →
      Yields Same Never (finish (n, byte, cs)) (finish (n, byte, ds)) := by
    intro n byte cs ds hrest
    simp only [finish]
    split
    · exact yields_ok ⟨rfl, hrest⟩
    · exact yields_malformed
  split
  · next rest hcs =>
    rw [hcs] at hskip
    obtain ⟨rest', hds, hrest⟩ := hskip.cons
    rw [hds]
    have hfuel := Nat.succ_le_succ hrest.length_le
    exact (readHexBraced_yields 0 0 hrest hfuel (Nat.lt_succ_self _)).then
      fun n _ _ _ hrest => hfinish n false _ _ hrest
  · next hno =>
    split
    · next rest hds => exact (hskip.ne_cons (by decide) hno rest hds).elim
    · exact (readHexDigits_yields width 0 hskip).then fun n _ _ _ hrest => hfinish n _ _ _ hrest

theorem readHex_leaves (width : Nat) (cs : List Char) :
    Leaves cs.length (readHex f width cs) := by
  have hlen := length_skip_le f cs
  unfold readHex
  extract_lets finish
  have hfinish : ∀ n byte rest, rest.length ≤ cs.length →
      Leaves cs.length (finish (n, byte, rest)) := by
    intro n byte rest hrest
    simp only [finish]
    split
    · exact leaves_ok hrest
    · exact leaves_malformed
  split
  · next rest hcs =>
    rw [hcs, List.length_cons] at hlen
    exact (readHexBraced_leaves _ 0 0 rest).bind fun n _ hrest =>
      hfinish n false _ (hrest.trans (Nat.le_of_succ_le hlen))
  · exact (readHexDigits_leaves width 0 _).bind fun n _ hrest => hfinish n _ _ (hrest.trans hlen)

/-- There is no closing brace behind the pattern. -/
theorem readName_closing (n : Nat) : readName f n closing = malformed := by
  rcases n with _ | _ | _ | n <;> simp [readName, closing, malformed, bind, Except.bind]

theorem readName_yields (h : Followed cs ds) (hfuel : n ≤ m) (henough : cs.length < n) :
    Yields Same Never (readName f n cs) (readName f m ds) := by
  induction n generalizing cs ds m with
  | zero => exact absurd henough (Nat.not_lt_zero _)
  | succ n ih =>
      obtain ⟨m, rfl⟩ : ∃ k, m = k + 1 := Nat.exists_eq_add_one.2 (by omega)
      have hskip := h.skip f
      simp only [readName]
      rcases hskip.nil_or_cons with hcs | ⟨c, rest, rest', hcs, hds, hrest⟩
      · rw [hcs] at hskip ⊢
        rcases hskip.nil with hds | hds
        · have hmalformed := readName_closing (f := f) (m + 1)
          simp only [readName, closing, skip_closing] at hmalformed
          rw [hds, closing, hmalformed]
          exact yields_malformed
        · rw [hds]
          exact yields_malformed
      · have hlen := length_skip_le f cs
        rw [hcs, List.length_cons] at hlen
        rw [hcs, hds]
        by_cases hbrace : c = '}'
        · subst hbrace
          exact yields_ok ⟨rfl, hrest⟩
        · simp only
          exact (ih hrest (Nat.le_of_succ_le_succ hfuel) (by omega)).then fun _ _ _ _ hrest =>
            yields_ok ⟨rfl, hrest⟩

theorem readName_leaves (n : Nat) (cs : List Char) : Leaves cs.length (readName f n cs) := by
  induction n generalizing cs with
  | zero => exact leaves_malformed
  | succ n ih =>
      have hlen := length_skip_le f cs
      simp only [readName]
      split
      · next hcs =>
        rw [hcs, List.length_cons] at hlen
        exact leaves_ok (Nat.le_of_succ_le hlen)
      · next hcs =>
        rw [hcs, List.length_cons] at hlen
        exact (ih _).bind fun _ _ hrest => leaves_ok (hrest.trans (Nat.le_of_succ_le hlen))
      · exact leaves_malformed

/-- What is found under the name of a property, after its letter. -/
def findProperty (f : Flags) (cs : List Char) :
    Except PatternFault (Read (Option (Unicode.Ranges × Bool))) :=
  match skip f cs with
  | '{' :: rest => do
      let (name, rest) ← readName f (rest.length + 1) rest
      .ok (propertySet? name, rest)
  | '\\' :: _ => malformed
  | c :: rest => .ok ((Unicode.named? [c]).map (·, false), skip f rest)
  | [] => malformed

/-- The class of characters that was found, or its complement. -/
def classOf (f : Flags) (negated : Bool) (found : Option (Unicode.Ranges × Bool))
    (rest : List Char) : Except PatternFault (Read Escape) :=
  match found with
  | some (ranges, unequal) =>
      let set := CharSet.table ranges
      let set := if f.ignoreCase then .caseFold set else set
      if f.unicode then
        .ok (.set (if negated != unequal then .compl set else set), rest)
      else
        malformed
  | none => malformed

theorem readProperty_eq (negated : Bool) (cs : List Char) :
    readProperty f negated cs = findProperty f cs >>= fun x => classOf f negated x.1 x.2 := by
  unfold readProperty findProperty
  extract_lets finish
  rcases skip f cs with _ | ⟨c, rest⟩
  · rfl
  · by_cases hbrace : c = '{'
    · subst hbrace
      change (readName f (rest.length + 1) rest >>= fun x => finish (propertySet? x.1, x.2)) =
        (readName f (rest.length + 1) rest >>= fun x => .ok (propertySet? x.1, x.2)) >>= _
      cases readName f (rest.length + 1) rest <;> rfl
    · by_cases hslash : c = '\\'
      · subst hslash
        rfl
      · simp only
        rfl

theorem findProperty_yields (h : Followed cs ds) :
    Yields Same Past (findProperty f cs) (findProperty f ds) := by
  have hskip := h.skip f
  unfold findProperty
  rcases hskip.nil_or_cons with hcs | ⟨c, rest, rest', hcs, hds, hrest⟩
  · rw [hcs] at hskip ⊢
    rcases hskip.nil with hds | hds <;> rw [hds]
    · -- The bracket behind the pattern would be the name of the property.
      refine yields_far fun y hy => ?_
      obtain rfl := Except.ok.inj hy
      exact skip_past f
    · exact yields_malformed
  · rw [hcs, hds]
    by_cases hbrace : c = '{'
    · subst hbrace
      exact (readName_yields hrest (Nat.succ_le_succ hrest.length_le) (Nat.lt_succ_self _)).then
        fun name _ _ _ hrest => yields_ok ⟨rfl, hrest⟩
    · by_cases hslash : c = '\\'
      · subst hslash
        exact yields_malformed
      · simp only
        exact yields_ok ⟨rfl, hrest.skip f⟩

theorem findProperty_leaves (cs : List Char) : Leaves cs.length (findProperty f cs) := by
  have hlen := length_skip_le f cs
  unfold findProperty
  split
  · next rest hcs =>
    rw [hcs, List.length_cons] at hlen
    exact (readName_leaves _ rest).bind fun name _ hrest =>
      leaves_ok (hrest.trans (Nat.le_of_succ_le hlen))
  · exact leaves_malformed
  · next rest _ _ hcs =>
    rw [hcs, List.length_cons] at hlen
    exact leaves_ok ((length_skip_le f rest).trans (Nat.le_of_succ_le hlen))
  · exact leaves_malformed

theorem classOf_yields (negated : Bool) (found : Option (Unicode.Ranges × Bool))
    (h : Followed cs ds) :
    Yields Same Past (classOf f negated found cs) (classOf f negated found ds) := by
  unfold classOf
  split
  · exact yields_ite (fun _ => yields_ok ⟨rfl, h⟩) fun _ => yields_malformed
  · exact yields_malformed

theorem rest_of_classOf {negated : Bool} {found : Option (Unicode.Ranges × Bool)}
    {y : Read Escape} (h : classOf f negated found cs = .ok y) : y.2 = cs := by
  unfold classOf at h
  split at h
  · simp only at h
    split at h
    · obtain rfl := Except.ok.inj h
      rfl
    · contradiction
  · contradiction

theorem readProperty_yields (negated : Bool) (h : Followed cs ds) :
    Yields Same Past (readProperty f negated cs) (readProperty f negated ds) := by
  rw [readProperty_eq, readProperty_eq]
  refine (findProperty_yields h).thenFar ?_ fun found _ _ _ hrest =>
    classOf_yields negated found hrest
  exact fun found ds hpast y hy => (rest_of_classOf hy).trans hpast

theorem readProperty_leaves (negated : Bool) (cs : List Char) :
    Leaves cs.length (readProperty f negated cs) := by
  rw [readProperty_eq]
  refine (findProperty_leaves cs).bind fun found rest hrest y hy => ?_
  rwa [rest_of_classOf hy]

theorem readEdge_yields (h : Followed cs ds) :
    Yields Same (fun y => Dangles f y.2) (readEdge f cs) (readEdge f ds) := by
  have hedge : ∀ cs ds, Followed cs ds → Yields Same (fun y => Dangles f y.2)
      (.ok (WordEdge.boundary, cs)) (.ok (WordEdge.boundary, ds)) :=
    fun _ _ h => yields_ok ⟨rfl, h⟩
  unfold readEdge
  split
  · next rest =>
    obtain ⟨ds, rfl, hrest⟩ := h.cons
    have hskip := hrest.skip f
    simp only
    rcases hskip.nil_or_cons with hcs | ⟨c, more, more', hcs, hds, hmore⟩
    · rw [hcs] at hskip ⊢
      rcases hskip.nil with hds | hds <;> rw [hds]
      · -- The character behind the brace is the bracket behind the pattern.
        refine yields_far fun y hy => ?_
        obtain rfl := Except.ok.inj hy
        exact ⟨ds, rfl, hds⟩
      · exact yields_malformed
    · rw [hcs, hds]
      refine yields_ite (fun _ => ?_) fun _ => hedge _ _ h
      obtain ⟨hname, hbrace⟩ := scanWhile_same (p := isEdgeLetter) (f := f) (by decide)
        (hmore.cons_append c) (Nat.le_refl _) (Nat.le_refl _)
      rw [scanEdgeName_eq, scanEdgeName_eq, ← List.length_cons, ← List.length_cons, ← hname]
      split
      · next rest edge hrest hnamed =>
        rw [hrest] at hbrace
        obtain ⟨rest', hds, hrest⟩ := hbrace.cons
        rw [hds, hnamed]
        exact yields_ok ⟨rfl, hrest⟩
      · next hno =>
        split
        · next rest' edge hrest' hnamed =>
          rw [hrest'] at hbrace
          obtain ⟨rest, hcs, -⟩ := hbrace.of_cons (by decide)
          exact (hno rest edge hcs hnamed).elim
        · exact yields_malformed
  · next hno =>
    split
    · next rest => exact (h.ne_cons (by decide) hno rest rfl).elim
    · exact hedge _ _ h

theorem readEdge_leaves (cs : List Char) : Leaves cs.length (readEdge f cs) := by
  unfold readEdge
  split
  · next rest =>
    have hlen := length_skip_le f rest
    split
    · exact leaves_malformed
    · next c more hcs =>
      rw [hcs] at hlen
      split
      · rw [scanEdgeName_eq]
        have hscan := length_scanWhile_le (p := isEdgeLetter) (f := f) (more.length + 1) (c :: more)
        simp only
        split
        · next hrest _ =>
          rw [hrest, List.length_cons] at hscan
          exact leaves_ok ((Nat.le_of_succ_le hscan).trans (hlen.trans (Nat.le_succ _)))
        · exact leaves_malformed
      · exact leaves_ok (Nat.le_refl _)
  · exact leaves_ok (Nat.le_refl _)

/-- An escape went too far if it took in the bracket behind the pattern, or if it is an
edge of a word before a brace at the end of the pattern. -/
def FarEscape (f : Flags) (y : Read Escape) : Prop :=
  Past y ∨ (∃ a, y.1 = .anchor a) ∧ Dangles f y.2

theorem readEscape_yields (h : Followed cs ds) :
    Yields Same (FarEscape f) (readEscape f cs) (readEscape f ds) := by
  rcases h.nil_or_cons with rfl | ⟨c, rest, rest', rfl, rfl, hrest⟩
  · rcases h.nil with rfl | rfl
    · refine yields_far fun y hy => .inl ?_
      obtain rfl := Except.ok.inj hy
      rfl
    · exact yields_malformed
  have hok : ∀ e : Escape, Yields Same (FarEscape f) (.ok (e, rest)) (.ok (e, rest')) :=
    fun _ => yields_ok ⟨rfl, hrest⟩
  have hhex : ∀ width, Yields Same (FarEscape f) (readHex f width rest) (readHex f width rest') :=
    fun width => (readHex_yields width hrest).of_never
  have hproperty : ∀ negated, Yields Same (FarEscape f) (readProperty f negated rest)
      (readProperty f negated rest') :=
    fun negated => (readProperty_yields negated hrest).mono fun _ h => .inl h
  simp only [readEscape]
  -- The letter of the escape decides in both texts what is read.
  refine yields_ite (fun _ => yields_malformed) fun _ => ?_
  refine yields_ite (fun _ => hhex _) fun _ => ?_
  refine yields_ite (fun _ => hhex _) fun _ => ?_
  refine yields_ite (fun _ => hhex _) fun _ => ?_
  refine yields_ite (fun _ => hproperty _) fun _ => ?_
  refine yields_ite (fun _ => hproperty _) fun _ => ?_
  refine yields_ite (fun _ => ?_) fun _ => ?_
  · split
    · exact hok _
    · exact yields_malformed
  iterate 9 refine yields_ite (fun _ => hok _) fun _ => ?_
  refine yields_ite (fun _ => ?_) fun _ => ?_
  · exact (readEdge_yields hrest).map (fun _ hfar => .inr ⟨⟨_, rfl⟩, hfar⟩)
      fun _ _ hxy => ⟨by rw [hxy.1], hxy.2⟩
  iterate 3 refine yields_ite (fun _ => hok _) fun _ => ?_
  exact yields_malformed

/-- An escape takes one character at least. -/
theorem readEscape_leaves (c : Char) (rest : List Char) :
    Leaves rest.length (readEscape f (c :: rest)) := by
  have hok : ∀ e : Escape, Leaves rest.length (.ok (e, rest)) := fun _ => leaves_ok (Nat.le_refl _)
  simp only [readEscape]
  refine leaves_ite leaves_malformed ?_
  refine leaves_ite (readHex_leaves 2 rest) ?_
  refine leaves_ite (readHex_leaves 4 rest) ?_
  refine leaves_ite (readHex_leaves 8 rest) ?_
  refine leaves_ite (readProperty_leaves false rest) ?_
  refine leaves_ite (readProperty_leaves true rest) ?_
  refine leaves_ite ?_ ?_
  · split
    · exact hok _
    · exact leaves_malformed
  iterate 9 refine leaves_ite (hok _) ?_
  refine leaves_ite ((readEdge_leaves rest).map fun _ => rfl) ?_
  iterate 3 refine leaves_ite (hok _) ?_
  exact leaves_malformed

end

end FormRules.Pattern.Reader
