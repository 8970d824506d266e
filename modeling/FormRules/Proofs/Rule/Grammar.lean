import FormRules.Proofs.Rule.Slices
import FormRules.Proofs.Traversal

/-!
# The grammar of rule strings

`Token.Reads` says which trimmed pieces are rules and which token each of them
is.  `TokenFault.Applies` says what can be wrong with a piece; of the faults
that apply, the first one is reported.  The reader agrees with both: it accepts
a rule string exactly when every piece is a rule, and otherwise it reports the
leftmost piece that is none.
-/

namespace FormRules

open Text

namespace Token

/-- The token that a trimmed piece is read as.  A piece that lacks one of the
brackets is a name.  Any other has one bracket of each kind, the closing one
last, and before them a text that is not blank. -/
inductive Reads : List Char → Token → Prop
  | plain {piece : List Char} (hne : piece ≠ []) (hlacks : '[' ∉ piece ∨ ']' ∉ piece) :
      Reads piece ⟨String.ofList piece, none⟩
  | bracketed {before inside : List Char} (hbefore : Bare before) (hinside : Bare inside)
      (hname : ¬ AllBlank before) :
      Reads (before ++ '[' :: (inside ++ [']']))
        ⟨String.ofList (trim before), some (String.ofList inside)⟩

end Token

namespace TokenFault

/-- The faults of a trimmed piece.  More than one of them may apply. -/
def Applies (piece : List Char) : TokenFault → Prop
  | emptyRule => piece = []
  | repeatedBrackets => Token.Bracketed piece ∧ (1 < piece.count '[' ∨ 1 < piece.count ']')
  | reversedBrackets => ∃ a b, piece = a ++ ']' :: b ∧ '[' ∉ a ∧ '[' ∈ b
  | trailingText => Token.Bracketed piece ∧ piece.getLast? ≠ some ']'
  | missingName => ∃ a b, piece = a ++ '[' :: b ∧ AllBlank a ∧ ']' ∈ b

/-- The place of a fault in the order in which faults are looked for. -/
def rank : TokenFault → Nat
  | emptyRule => 0
  | repeatedBrackets => 1
  | reversedBrackets => 2
  | trailingText => 3
  | missingName => 4

/-- The fault that is reported: it applies, and none that comes before it
does. -/
def IsFirst (piece : List Char) (fault : TokenFault) : Prop :=
  fault.Applies piece ∧ ∀ other : TokenFault, other.rank < fault.rank → ¬ other.Applies piece

theorem rank_injective {a b : TokenFault} (h : a.rank = b.rank) : a = b := by
  cases a <;> cases b <;> simp_all [rank]

/-- At most one fault is reported. -/
theorem IsFirst.unique {piece : List Char} {a b : TokenFault} (ha : a.IsFirst piece)
    (hb : b.IsFirst piece) : a = b := by
  apply rank_injective
  by_contra hne
  rcases Nat.lt_or_gt_of_ne hne with h | h
  · exact hb.2 a h ha.1
  · exact ha.2 b h hb.1

end TokenFault

namespace Token

/-- On a piece with one bracket of each kind in the right order, the first three
faults do not apply. -/
theorem not_applies_ordered {a b c : List Char} (ha : Bare a) (hb : Bare b) (hc : Bare c)
    {fault : TokenFault} (hrank : fault.rank < 3) :
    ¬ fault.Applies (a ++ '[' :: (b ++ ']' :: c)) := by
  cases fault with
  | emptyRule => simp [TokenFault.Applies]
  | repeatedBrackets =>
      have hcount := count_ordered ha hb hc
      rintro ⟨-, h⟩
      omega
  | reversedBrackets =>
      rintro ⟨x, y, hpiece, hx, hy⟩
      obtain ⟨p, q, rfl, hp⟩ := List.eq_append_cons_of_mem hy
      -- Both sides show what stands before the first opening bracket.
      have hbefore : '[' ∉ x ++ ']' :: p := by simp [hx, hp]
      have htake := takeWhile_bne_append hbefore q
      rw [show (x ++ ']' :: p) ++ '[' :: q = x ++ ']' :: (p ++ '[' :: q) by simp, ← hpiece,
        takeWhile_bne_append ha.1] at htake
      apply ha.2
      simp [htake]
  | trailingText => simp [TokenFault.rank] at hrank
  | missingName => simp [TokenFault.rank] at hrank

theorem trailingText_applies_ordered {a b c : List Char} (hc : Bare c) :
    TokenFault.trailingText.Applies (a ++ '[' :: (b ++ ']' :: c)) ↔ c ≠ [] := by
  have hlast : (a ++ '[' :: (b ++ ']' :: c)).getLast? = (']' :: c).getLast? := by
    rw [← List.cons_append, ← List.append_assoc, List.getLast?_append_cons]
  have hboth : Bracketed (a ++ '[' :: (b ++ ']' :: c)) := ⟨by simp, by simp⟩
  constructor
  · rintro ⟨-, h⟩ rfl
    exact h (by rw [hlast]; rfl)
  · intro hne
    refine ⟨hboth, ?_⟩
    rw [hlast, List.getLast?_cons_of_ne_nil hne]
    intro h
    exact hc.2 (List.mem_of_getLast? h)

theorem missingName_applies_ordered {a b c : List Char} (ha : Bare a) :
    TokenFault.missingName.Applies (a ++ '[' :: (b ++ ']' :: c)) ↔ AllBlank a := by
  constructor
  · rintro ⟨x, y, hpiece, hblank, -⟩
    have hx : '[' ∉ x := not_mem_of_allBlank hblank (by decide)
    have htake := takeWhile_bne_append hx y
    rw [← hpiece, takeWhile_bne_append ha.1] at htake
    rwa [htake]
  · intro hblank
    exact ⟨a, b ++ ']' :: c, rfl, hblank, by simp⟩

/-- A piece that lacks a kind of bracket has no fault but that of being
empty. -/
theorem not_applies_lacking {piece : List Char} (hne : piece ≠ [])
    (h : '[' ∉ piece ∨ ']' ∉ piece) (fault : TokenFault) : ¬ fault.Applies piece := by
  have hboth : ¬ Bracketed piece := by
    rintro ⟨hopening, hclosing⟩
    simp [hopening, hclosing] at h
  cases fault with
  | emptyRule => exact hne
  | repeatedBrackets => exact fun hfault => hboth hfault.1
  | reversedBrackets =>
      rintro ⟨a, b, rfl, -, hb⟩
      exact hboth ⟨by simp [hb], by simp⟩
  | trailingText => exact fun hfault => hboth hfault.1
  | missingName =>
      rintro ⟨a, b, rfl, -, hb⟩
      exact hboth ⟨by simp, by simp [hb]⟩

/-- A rule has no fault. -/
theorem Reads.not_applies {piece : List Char} {t : Token} (h : Reads piece t)
    (fault : TokenFault) : ¬ fault.Applies piece := by
  cases h with
  | plain hne hlacks => exact not_applies_lacking hne hlacks fault
  | bracketed hbefore hinside hname =>
      have hbare : Bare [] := ⟨by simp, by simp⟩
      cases fault with
      | trailingText => simp [trailingText_applies_ordered hbare]
      | missingName => simpa [missingName_applies_ordered hbefore] using hname
      | emptyRule => exact not_applies_ordered hbefore hinside hbare (by decide)
      | repeatedBrackets => exact not_applies_ordered hbefore hinside hbare (by decide)
      | reversedBrackets => exact not_applies_ordered hbefore hinside hbare (by decide)

/-- The reader accepts rules only, and reads them as their tokens. -/
theorem reads_of_readTrimmed {piece : List Char} {t : Token}
    (h : readTrimmed piece = .ok t) : Reads piece t := by
  cases layout piece with
  | lacking hlacks =>
      by_cases hne : piece = []
      · subst hne
        simp [readTrimmed] at h
      · rw [readTrimmed_lacking hne hlacks, Except.ok.injEq] at h
        exact h ▸ .plain hne hlacks
  | repeated hboth hcount => simp [readTrimmed_repeated hboth hcount] at h
  | reversed ha hb hc => simp [readTrimmed_reversed ha hb hc] at h
  | @ordered a b c ha hb hc =>
      rw [readTrimmed_ordered ha hb hc] at h
      by_cases hrest : c = []
      · by_cases hblank : trim a = []
        · simp [hrest, hblank] at h
        · rw [if_neg (by simp [hrest]), if_neg hblank, Except.ok.injEq] at h
          subst hrest
          exact h ▸ .bracketed ha hb (mt (trim_eq_nil_iff a).2 hblank)
      · simp [hrest] at h

/-- The reader reports the first fault that applies. -/
theorem isFirst_of_readTrimmed {piece : List Char} {fault : TokenFault}
    (h : readTrimmed piece = .error fault) : fault.IsFirst piece := by
  cases layout piece with
  | lacking hlacks =>
      by_cases hne : piece = []
      · subst hne
        simp only [readTrimmed, if_true, Except.error.injEq] at h
        subst h
        exact ⟨rfl, fun other hother => by simp [TokenFault.rank] at hother⟩
      · simp [readTrimmed_lacking hne hlacks] at h
  | repeated hboth hcount =>
      rw [readTrimmed_repeated hboth hcount, Except.error.injEq] at h
      subst h
      refine ⟨⟨hboth, hcount⟩, fun other hother => ?_⟩
      cases other <;> simp [TokenFault.rank] at hother
      exact List.ne_nil_of_mem hboth.1
  | @reversed a b c ha hb hc =>
      rw [readTrimmed_reversed ha hb hc, Except.error.injEq] at h
      subst h
      refine ⟨⟨a, b ++ '[' :: c, rfl, ha.1, by simp⟩, fun other hother => ?_⟩
      -- The piece is not empty and has one bracket of each kind.
      have hcount := count_reversed ha hb hc
      cases other <;> simp [TokenFault.rank] at hother
      · simp [TokenFault.Applies]
      · rintro ⟨-, hmany⟩
        omega
  | @ordered a b c ha hb hc =>
      rw [readTrimmed_ordered ha hb hc] at h
      by_cases hrest : c = []
      · by_cases hblank : trim a = []
        · rw [if_neg (by simp [hrest]), if_pos hblank, Except.error.injEq] at h
          subst h
          refine ⟨(missingName_applies_ordered ha).2 ((trim_eq_nil_iff a).1 hblank),
            fun other hother => ?_⟩
          -- Only text after the closing bracket is left to be ruled out.
          by_cases hlow : other.rank < 3
          · exact not_applies_ordered ha hb hc hlow
          · have hlast : other = .trailingText := by
              apply TokenFault.rank_injective
              change other.rank < 4 at hother
              show other.rank = 3
              omega
            rw [hlast, trailingText_applies_ordered hc]
            simpa using hrest
        · simp [hrest, hblank] at h
      · rw [if_pos hrest, Except.error.injEq] at h
        subst h
        exact ⟨(trailingText_applies_ordered hc).2 hrest,
          fun other hother => not_applies_ordered ha hb hc hother⟩

theorem readTrimmed_eq_ok_iff (piece : List Char) (t : Token) :
    readTrimmed piece = .ok t ↔ Reads piece t := by
  constructor
  · exact reads_of_readTrimmed
  · intro h
    cases h with
    | plain hne hlacks => exact readTrimmed_lacking hne hlacks
    | @bracketed before inside hbefore hinside hname =>
        have hbare : Bare [] := ⟨by simp, by simp⟩
        rw [readTrimmed_ordered hbefore hinside hbare, if_neg (by simp),
          if_neg (mt (trim_eq_nil_iff before).1 hname)]

theorem readTrimmed_eq_error_iff (piece : List Char) (fault : TokenFault) :
    readTrimmed piece = .error fault ↔ fault.IsFirst piece := by
  constructor
  · exact isFirst_of_readTrimmed
  · intro h
    cases hread : readTrimmed piece with
    | ok t => exact absurd h.1 ((reads_of_readTrimmed hread).not_applies fault)
    | error other => rw [(isFirst_of_readTrimmed hread).unique h]

/-- The trimmed pieces between the separators of a rule string. -/
def pieces (rules : String) : List (List Char) :=
  ((trim rules.toList).splitOn separator).map trim

theorem readPiece_eq_ok_iff (piece : List Char) (t : Token) :
    readPiece piece = .ok t ↔ Reads piece t := by
  rw [← readTrimmed_eq_ok_iff, readPiece]
  cases readTrimmed piece <;> simp [Except.mapError]

theorem readPiece_eq_error_iff (piece : List Char) (e : RuleError) :
    readPiece piece = .error e ↔
      ∃ fault : TokenFault, fault.IsFirst piece ∧
        e = .malformedRule "" (String.ofList piece) fault.reason := by
  simp only [← readTrimmed_eq_error_iff, readPiece]
  cases readTrimmed piece <;> simp [Except.mapError, eq_comm]

theorem parseAll_of_allBlank {rules : String} (h : AllBlank rules.toList) :
    parseAll (some rules) = .ok [] :=
  if_pos ((trim_eq_nil_iff _).2 h)

/-- A rule string that is not blank is read piece by piece. -/
theorem parseAll_of_not_allBlank {rules : String} (h : ¬ AllBlank rules.toList) :
    parseAll (some rules) = (pieces rules).mapM readPiece := by
  have hne : trim rules.toList ≠ [] := mt (trim_eq_nil_iff _).1 h
  rw [pieces, List.mapM_map, ← cut_eq_splitOn]
  exact if_neg hne

/-- A rule string is read by its grammar: an absent or blank one has no rules;
any other is accepted exactly when all its pieces are rules, with one token for
each piece in the order of the pieces, and otherwise the leftmost piece that is
no rule is reported with the first fault that applies to it.  No slice on the
way leaves its piece or cuts a character. -/
theorem parseAll_grammar :
    parseAll none = .ok [] ∧
    (∀ rules : String, AllBlank rules.toList → parseAll (some rules) = .ok []) ∧
    (∀ rules : String, ¬ AllBlank rules.toList →
      (∀ tokens, parseAll (some rules) = .ok tokens ↔
        List.Forall₂ Reads (pieces rules) tokens) ∧
      (∀ e, parseAll (some rules) = .error e ↔
        ∃ before piece after, pieces rules = before ++ piece :: after ∧
          (∀ earlier ∈ before, ∃ t, Reads earlier t) ∧
          ∃ fault : TokenFault, fault.IsFirst piece ∧
            e = .malformedRule "" (String.ofList piece) fault.reason) ∧
      ∀ piece ∈ pieces rules, readSliced piece = some (readTrimmed piece)) ∧
    ∀ fault : TokenFault,
      ["empty rule", "nested or repeated brackets", "']' before '['",
        "text after closing ']'", "missing rule name"][fault.rank]? = some fault.reason := by
  refine ⟨rfl, fun _ => parseAll_of_allBlank, fun rules hblank => ?_, fun fault => ?_⟩
  · rw [parseAll_of_not_allBlank hblank]
    refine ⟨fun tokens => ?_, fun e => ?_, fun piece _ => readSliced_eq_readTrimmed piece⟩
    · simp only [Traversal.mapM_eq_ok_iff, readPiece_eq_ok_iff]
    · simp only [Traversal.mapM_eq_error_iff, readPiece_eq_ok_iff, readPiece_eq_error_iff]
  · cases fault <;> rfl

end Token

end FormRules
