import FormRules.Form.Control
import FormRules.Proofs.Rule.Codes

/-!
# Joined rule strings

Two rule strings that are not blank can be joined with a separator.  The pieces
of the joined string are those of the first one and then those of the second
one, so it is read, resolved and run in two parts.  Both parts are read before
the first rule is resolved, which decides the error if there is one.
-/

namespace FormRules

open Text

/-- The error of an outcome, if it is one. -/
def error? {ε α : Type} : Except ε α → Option ε
  | .ok _ => none
  | .error e => some e

theorem error?_eq_none_iff {ε α : Type} {x : Except ε α} :
    error? x = none ↔ ∃ a, x = .ok a := by
  cases x <;> simp [error?]

theorem error?_eq_some_iff {ε α : Type} {x : Except ε α} {e : ε} :
    error? x = some e ↔ x = .error e := by
  cases x <;> simp [error?]

namespace Token

/-- Blanks at the ends of a rule string do not count, so its pieces can be cut
from the string as it stands. -/
theorem pieces_eq_map_trim (rules : String) :
    pieces rules = (rules.toList.splitOn separator).map trim :=
  map_trim_splitOn_trim (by decide) rules.toList

theorem toList_append_bar (a b : String) :
    (a ++ "|" ++ b).toList = a.toList ++ separator :: b.toList := by
  simp [separator]

theorem pieces_append_bar (a b : String) : pieces (a ++ "|" ++ b) = pieces a ++ pieces b := by
  rw [pieces_eq_map_trim, toList_append_bar, List.splitOn_append_cons_self, List.map_append,
    ← pieces_eq_map_trim, ← pieces_eq_map_trim]

theorem not_allBlank_append_bar (a b : String) : ¬ AllBlank (a ++ "|" ++ b).toList := by
  intro hblank
  have hbar : separator ∉ (a ++ "|" ++ b).toList := not_mem_of_allBlank hblank (by decide)
  rw [toList_append_bar] at hbar
  simp at hbar

/-- Joined rule strings are read one after the other. -/
theorem parseAll_append_bar {a b : String} (ha : ¬ AllBlank a.toList)
    (hb : ¬ AllBlank b.toList) :
    parseAll (some (a ++ "|" ++ b)) = do
      let first ← parseAll (some a)
      let second ← parseAll (some b)
      return first ++ second := by
  rw [parseAll_of_not_allBlank (not_allBlank_append_bar a b), pieces_append_bar,
    List.mapM_append, parseAll_of_not_allBlank ha, parseAll_of_not_allBlank hb]

end Token

namespace Resolver

/-- Why the tokens of a rule string do not all resolve.  A string that cannot be
read has no tokens to resolve. -/
def resolveError? (r : Resolver) (rules : String) : Option RuleError :=
  match Token.parseAll (some rules) with
  | .ok tokens => error? (tokens.mapM r.resolve)
  | .error _ => none

section

variable (r : Resolver)

/-- A rule string is read first, and then its tokens are resolved. -/
theorem error?_compile (rules : String) :
    error? (r.compile (some rules)) =
      (error? (Token.parseAll (some rules))).or (r.resolveError? rules) := by
  unfold compile resolveError?
  cases Token.parseAll (some rules) with
  | error e => rfl
  | ok tokens => rfl

/-- Both of two joined rule strings are read before the first of them is
resolved. -/
theorem compile_append_bar {a b : String} (ha : ¬ AllBlank a.toList)
    (hb : ¬ AllBlank b.toList) :
    r.compile (some (a ++ "|" ++ b)) = do
      let first ← Token.parseAll (some a)
      let second ← Token.parseAll (some b)
      let before ← first.mapM r.resolve
      let after ← second.mapM r.resolve
      return before ++ after := by
  rw [compile, Token.parseAll_append_bar ha hb]
  simp only [bind_assoc, pure_bind, List.mapM_append]

/-- The error of joined rule strings is the first one of the two readings and then
of the two resolutions. -/
theorem error?_compile_append_bar {a b : String} (ha : ¬ AllBlank a.toList)
    (hb : ¬ AllBlank b.toList) :
    error? (r.compile (some (a ++ "|" ++ b))) =
      [error? (Token.parseAll (some a)), error? (Token.parseAll (some b)),
        r.resolveError? a, r.resolveError? b].findSome? id := by
  rw [r.compile_append_bar ha hb]
  unfold resolveError?
  -- The stages in their order; the first that fails decides the error.
  cases Token.parseAll (some a) with
  | error e => rfl
  | ok first =>
      cases Token.parseAll (some b) with
      | error e => rfl
      | ok second =>
          change error? (first.mapM r.resolve >>= fun before => second.mapM r.resolve >>=
            fun after => pure (before ++ after)) =
            [none, none, error? (first.mapM r.resolve), error? (second.mapM r.resolve)].findSome? id
          cases first.mapM r.resolve with
          | error e => rfl
          | ok before => cases second.mapM r.resolve <;> rfl

/-- The chain of joined rule strings is made of their chains. -/
theorem compile_append_bar_eq_ok {a b : String} (ha : ¬ AllBlank a.toList)
    (hb : ¬ AllBlank b.toList) {before after : List Validator}
    (hbefore : r.compile (some a) = .ok before) (hafter : r.compile (some b) = .ok after) :
    r.compile (some (a ++ "|" ++ b)) = .ok (before ++ after) := by
  obtain ⟨first, hfirst, hbefore⟩ := (compile_eq_ok_iff _ _ _).1 hbefore
  obtain ⟨second, hsecond, hafter⟩ := (compile_eq_ok_iff _ _ _).1 hafter
  have hread : Token.parseAll (some (a ++ "|" ++ b)) = .ok (first ++ second) := by
    rw [Token.parseAll_append_bar ha hb, hfirst, hsecond]
    rfl
  exact (compile_eq_ok_iff _ _ _).2 ⟨first ++ second, hread, List.rel_append hbefore hafter⟩

end

/-- Joining two rule strings that are not blank joins their chains.  The joined
string compiles exactly when both do, and its chain leaves the failures of the
first one and then those of the second one that are new.  Otherwise the first
error counts, where both strings are read before one of them is resolved. -/
theorem compile_in_parts (r : Resolver) {a b : String} (ha : ¬ AllBlank a.toList)
    (hb : ¬ AllBlank b.toList) :
    ((∃ chain, r.compile (some (a ++ "|" ++ b)) = .ok chain) ↔
      (∃ before, r.compile (some a) = .ok before) ∧
        ∃ after, r.compile (some b) = .ok after) ∧
    (∀ before after, r.compile (some a) = .ok before → r.compile (some b) = .ok after →
      r.compile (some (a ++ "|" ++ b)) = .ok (before ++ after) ∧
      ∀ (name : String) (state : FieldState) (fields : Lookup),
        let failures := fun chain => (Control.runValidators ⟨name, chain, state⟩ fields).codes
        failures (before ++ after) =
          failures before ++ (failures after).filter fun code => code ∉ failures before) ∧
    ∀ e, r.compile (some (a ++ "|" ++ b)) = .error e ↔
      [error? (Token.parseAll (some a)), error? (Token.parseAll (some b)),
        r.resolveError? a, r.resolveError? b].findSome? id = some e := by
  have herror := r.error?_compile_append_bar ha hb
  refine ⟨?_, ?_, ?_⟩
  · -- Both sides say that none of the four errors exists.
    simp only [← error?_eq_none_iff, herror, error?_compile, Option.or_eq_none_iff,
      List.findSome?_eq_none_iff, List.mem_cons, List.not_mem_nil, forall_eq_or_imp, or_false,
      forall_eq, id]
    tauto
  · intro before after hbefore hafter
    refine ⟨r.compile_append_bar_eq_ok ha hb hbefore hafter, ?_⟩
    intro name state fields
    exact codes_runChain_append before after state.value fields
  · intro e
    rw [← error?_eq_some_iff, herror]

/-- Two rule strings about lengths are joined to one that has both chains.  A
piece that is no rule is reported before an unknown rule that stands in front of
it. -/
theorem compile_in_parts_of_lengths :
    ¬ AllBlank "required|minlength[3]".toList ∧ ¬ AllBlank " required | maxlength[5]".toList ∧
      ¬ AllBlank "slugify".toList ∧ ¬ AllBlank "a[1]b".toList ∧
      (∃ before after, standard.compile (some "required|minlength[3]") = .ok before ∧
        standard.compile (some " required | maxlength[5]") = .ok after ∧
        standard.compile (some ("required|minlength[3]" ++ "|" ++ " required | maxlength[5]")) =
          .ok (before ++ after)) ∧
      standard.compile (some ("slugify" ++ "|" ++ "a[1]b")) =
        .error (.malformedRule "" "a[1]b" "text after closing ']'") := by
  have ha : ¬ AllBlank "required|minlength[3]".toList := by decide
  have hb : ¬ AllBlank " required | maxlength[5]".toList := by decide
  have hunknown : ¬ AllBlank "slugify".toList := by decide
  have hpiece : ¬ AllBlank "a[1]b".toList := by decide
  obtain ⟨before, hbefore⟩ := error?_eq_none_iff.1
    (show error? (standard.compile (some "required|minlength[3]")) = none by rfl)
  obtain ⟨after, hafter⟩ := error?_eq_none_iff.1
    (show error? (standard.compile (some " required | maxlength[5]")) = none by rfl)
  have hjoined := ((compile_in_parts standard ha hb).2.1 before after hbefore hafter).1
  have herror := ((compile_in_parts standard hunknown hpiece).2.2
    (.malformedRule "" "a[1]b" "text after closing ']'")).2 rfl
  exact ⟨ha, hb, hunknown, hpiece, ⟨before, after, hbefore, hafter, hjoined⟩, herror⟩

end Resolver

end FormRules
