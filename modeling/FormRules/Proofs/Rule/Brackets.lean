import FormRules.Proofs.Rule.Joining

/-!
# Brackets and separators

A rule string is cut at its separators before anything is known of its brackets,
so a separator inside of brackets cuts a rule in two.  A piece with a bracket
that is left alone can only be a plain name, and no rule has such a name.  So in
a rule string that compiles every piece has no brackets or one pair of them, and
no separator stands in brackets.
-/

namespace FormRules

open Text

/-- A factory has no rule with a bracket in its name. -/
def Factory.RefusesBrackets (factory : Factory) : Prop :=
  ∀ name argument, ¬ Token.Bare name.toList → ∃ e, factory.create name argument = .error e

namespace Token

/-- A piece with one pair of brackets, the closing one being its last character
that is not blank. -/
def Paired (piece : List Char) : Prop :=
  ∃ before inside blanks, piece = before ++ '[' :: (inside ++ ']' :: blanks) ∧
    Bare before ∧ Bare inside ∧ AllBlank blanks

/-- A separator stands in brackets: before it there is an opening bracket, and
no more brackets are closed than opened between the two. -/
def Severed (cs : List Char) : Prop :=
  ∃ before inside after, cs = before ++ '[' :: (inside ++ separator :: after) ∧
    inside.count ']' ≤ inside.count '['

/-- No bracket is closed before it is opened, and none is left open. -/
structure Balanced (cs : List Char) : Prop where
  opened : ∀ start, start <+: cs → start.count ']' ≤ start.count '['
  closed : cs.count '[' = cs.count ']'

section

variable {a b cs piece : List Char}

theorem Bare.append (ha : Bare a) (hb : Bare b) : Bare (a ++ b) :=
  ⟨by simp [ha.1, hb.1], by simp [ha.2, hb.2]⟩

theorem bare_of_allBlank (h : AllBlank cs) : Bare cs :=
  ⟨not_mem_of_allBlank h (by decide), not_mem_of_allBlank h (by decide)⟩

theorem Bare.balanced (h : Bare cs) : Balanced cs where
  opened := by
    intro start hstart
    rw [(h.mono hstart.subset).count.2]
    exact Nat.zero_le _
  closed := by rw [h.count.1, h.count.2]

/-- A start of two texts in a row is a start of the first one, or it goes on in
the second one. -/
theorem prefix_append_cases {start : List Char} (h : start <+: a ++ b) :
    start <+: a ∨ ∃ rest, start = a ++ rest ∧ rest <+: b := by
  rcases List.prefix_or_prefix_of_prefix h (List.prefix_append a b) with hstart | ⟨rest, rfl⟩
  · exact .inl hstart
  · exact .inr ⟨rest, rfl, (List.prefix_append_right_inj a).1 h⟩

theorem Balanced.append (ha : Balanced a) (hb : Balanced b) : Balanced (a ++ b) where
  opened := by
    intro start hstart
    rcases prefix_append_cases hstart with hstart | ⟨rest, rfl, hrest⟩
    · exact ha.opened start hstart
    · have hclosed := ha.closed
      have hopened := hb.opened rest hrest
      rw [List.count_append, List.count_append]
      omega
  closed := by rw [List.count_append, List.count_append, ha.closed, hb.closed]

theorem Paired.balanced (h : Paired piece) : Balanced piece := by
  obtain ⟨before, inside, blanks, rfl, hbefore, hinside, hblanks⟩ := h
  have hcount := count_ordered hbefore hinside (bare_of_allBlank hblanks)
  refine ⟨?_, by rw [hcount.1, hcount.2]⟩
  intro start hstart
  rcases prefix_append_cases hstart with hstart | ⟨rest, rfl, hrest⟩
  · exact hbefore.balanced.opened start hstart
  · -- What goes on after the text before the brackets starts with the opening one.
    cases rest with
    | nil => simp [hbefore.count]
    | cons c rest =>
        obtain ⟨rfl, -⟩ := List.cons_prefix_cons.1 hrest
        have hle : (before ++ '[' :: rest).count ']' ≤ 1 := by
          rw [← hcount.2]
          exact hstart.sublist.count_le _
        have hmem : 0 < (before ++ '[' :: rest).count '[' := List.count_pos_iff.2 (by simp)
        omega

/-- Balanced pieces with separators between them are balanced. -/
theorem balanced_intercalate {pieces : List (List Char)}
    (h : ∀ piece ∈ pieces, Balanced piece) : Balanced ([separator].intercalate pieces) := by
  have hseparator : Balanced [separator] := Bare.balanced ⟨by decide, by decide⟩
  induction pieces with
  | nil => exact Bare.balanced ⟨by simp, by simp⟩
  | cons piece rest ih =>
      have hpiece := h piece List.mem_cons_self
      cases rest with
      | nil => simpa using hpiece
      | cons next rest =>
          rw [List.intercalate_cons_cons]
          exact (hpiece.append hseparator).append
            (ih fun later hlater => h later (List.mem_cons_of_mem _ hlater))

theorem balanced_of_splitOn
    (h : ∀ piece ∈ cs.splitOn separator, Bare piece ∨ Paired piece) : Balanced cs := by
  have hpieces : ∀ piece ∈ cs.splitOn separator, Balanced piece := fun piece hpiece =>
    (h piece hpiece).elim Bare.balanced Paired.balanced
  have hjoined := balanced_intercalate hpieces
  rwa [List.intercalate_splitOn] at hjoined

/-- Where each piece has no brackets or one pair, no separator stands in
brackets. -/
theorem not_severed_of_splitOn
    (h : ∀ piece ∈ cs.splitOn separator, Bare piece ∨ Paired piece) : ¬ Severed cs := by
  rintro ⟨before, inside, after, rfl, hinside⟩
  -- The text up to the separator consists of whole pieces.
  have hsplit : before ++ '[' :: (inside ++ separator :: after) =
      (before ++ '[' :: inside) ++ separator :: after := by simp
  rw [hsplit, List.splitOn_append_cons_self] at h
  have hbalanced : Balanced (before ++ '[' :: inside) :=
    balanced_of_splitOn fun piece hpiece => h piece (List.mem_append_left _ hpiece)
  have hopened := hbalanced.opened before (List.prefix_append _ _)
  have hclosed := hbalanced.closed
  simp only [List.count_append, List.count_cons_self, List.count_cons_of_ne, ne_eq,
    Char.reduceEq, not_false_eq_true] at hclosed
  omega

/-- A separator between an opening bracket and the next closing one stands in
brackets. -/
theorem severed_of_between {before inside after : List Char} (hinside : ']' ∉ inside)
    (hseparator : separator ∈ inside) :
    Severed (before ++ '[' :: (inside ++ ']' :: after)) := by
  obtain ⟨first, rest, rfl, -⟩ := List.eq_append_cons_of_mem hseparator
  have hfirst : ']' ∉ first := by
    simp only [List.mem_append, not_or] at hinside
    exact hinside.1
  refine ⟨before, first, rest ++ ']' :: after, by simp, ?_⟩
  rw [List.count_eq_zero.2 hfirst]
  exact Nat.zero_le _

/-- The brackets of a rule: its trim has none, or one pair of them that closes
it. -/
theorem bare_or_paired_of_reads {t : Token} (h : Reads (trim piece) t)
    (hname : Bare t.name.toList) : Bare piece ∨ Paired piece := by
  obtain ⟨left, right, hpiece, hleft, hright⟩ := exists_eq_append_trim piece
  generalize trim piece = core at h hpiece
  subst hpiece
  cases h with
  | plain hne hlacks =>
      rw [String.toList_ofList] at hname
      exact .inl ((bare_of_allBlank hleft).append (hname.append (bare_of_allBlank hright)))
  | @bracketed before inside hbefore hinside hnamed =>
      refine .inr ⟨left ++ before, inside, right, by simp, ?_, hinside, hright⟩
      exact (bare_of_allBlank hleft).append hbefore

end

end Token

/-- The names of the custom rules have no brackets. -/
theorem CustomRule.bare_name (rule : CustomRule) : Token.Bare rule.name.toList := by
  cases rule <;> exact ⟨by decide, by decide⟩

theorem StandardRule.bare_name (rule : StandardRule) : Token.Bare rule.name.toList := by
  cases rule <;> exact ⟨by decide, by decide⟩

theorem Factory.standard_refusesBrackets : Factory.standard.RefusesBrackets := by
  intro name argument hname
  cases hrule : StandardRule.ofName? name with
  | none => exact ⟨_, standard_create_of_none hrule argument⟩
  | some rule =>
      rw [← StandardRule.name_of_ofName? hrule] at hname
      exact absurd rule.bare_name hname

namespace Resolver

variable {r : Resolver}

/-- A name that resolves has no brackets. -/
theorem bare_of_resolve (hfactory : r.factory.RefusesBrackets) {t : Token} {v : Validator}
    (h : r.resolve t = .ok v) : Token.Bare t.name.toList := by
  by_contra hname
  unfold resolve at h
  cases hcustom : CustomRule.ofName? t.name with
  | some rule =>
      rw [← CustomRule.name_of_ofName? hcustom] at hname
      exact hname rule.bare_name
  | none =>
      rw [hcustom] at h
      obtain ⟨e, he⟩ := hfactory t.name t.argument hname
      change r.factory.create t.name t.argument = .ok v at h
      rw [he] at h
      contradiction

/-- In a rule string that compiles, each piece has no brackets or one pair. -/
theorem bare_or_paired_of_compile (hfactory : r.factory.RefusesBrackets) {rules : String}
    {chain : List Validator} (h : r.compile (some rules) = .ok chain) :
    ∀ piece ∈ rules.toList.splitOn Token.separator, Token.Bare piece ∨ Token.Paired piece := by
  intro piece hpiece
  by_cases hblank : AllBlank rules.toList
  · rw [List.splitOn_eq_singleton (not_mem_of_allBlank hblank (by decide)),
      List.mem_singleton] at hpiece
    rw [hpiece]
    exact .inl (Token.bare_of_allBlank hblank)
  · obtain ⟨tokens, hread, hresolved⟩ := (compile_eq_ok_iff _ _ _).1 h
    rw [Token.parseAll_of_not_allBlank hblank, Traversal.mapM_eq_ok_iff] at hread
    have hmem : trim piece ∈ Token.pieces rules := by
      rw [Token.pieces_eq_map_trim]
      exact List.mem_map_of_mem hpiece
    obtain ⟨t, ht, hreads⟩ := Traversal.exists_result_of_forall₂ hread hmem
    obtain ⟨v, -, hv⟩ := Traversal.exists_result_of_forall₂ hresolved ht
    exact Token.bare_or_paired_of_reads ((Token.readPiece_eq_ok_iff _ _).1 hreads)
      (bare_of_resolve hfactory hv)

/-- A rule string that compiles has no separator in brackets. -/
theorem not_severed_of_compile (hfactory : r.factory.RefusesBrackets) {rules : String}
    {chain : List Validator} (h : r.compile (some rules) = .ok chain) :
    ¬ Token.Severed rules.toList :=
  Token.not_severed_of_splitOn (bare_or_paired_of_compile hfactory h)

end Resolver

end FormRules
