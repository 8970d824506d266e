import FormRules.Proofs.Form.Texts
import FormRules.Proofs.Message.History

/-!
# Several forms side by side

A program can open several forms and call them in any order.  A call on one form
leaves the others, so every form is what its own calls have made of it since it
was opened.  All forms start with one table of default texts, and what calls and
definitions make of the table of a form stays with that form.
-/

namespace FormRules

/-- What a program with several forms does.  A form goes by the number of forms
that were opened before it. -/
inductive FormCall where
  | openNew
  /-- Build a definition; if it is refused no form is opened. -/
  | openDefinition (d : Definition)
  | act (place : Nat) (op : Operation)

namespace FormCall

/-- The form that is opened. -/
def opened? : FormCall → Option Registry
  | openNew => some .new
  | openDefinition d => d.build.toOption
  | act _ _ => none

/-- How the texts of the form that is opened come about. -/
def firstEdits : FormCall → List MessageTable.Edit
  | openDefinition d => [.replace .defaults, .extend d.messages]
  | _ => [.replace .defaults]

/-- The operation on the form at a place. -/
def operationAt? (place : Nat) : FormCall → Option Operation
  | act p op => if p = place then some op else none
  | _ => none

/-- The forms after a call. -/
def apply (forms : List Registry) : FormCall → List Registry
  | act place op => forms.modify place fun r => (r.operate op).2
  | call => forms ++ call.opened?.toList

end FormCall

/-- The forms of a program, in the order in which they were opened. -/
def formsAfter (calls : List FormCall) : List Registry := calls.foldl FormCall.apply []

/-- The edit that an operation on a form is to its texts. -/
def editOf (done : Operation × Answer) : MessageTable.Edit :=
  match done.1 with
  | .form (.replaceMessages texts) => .replace (.given texts.entries)
  | .form a => .extend (addedTexts (a, done.2))
  | .field _ _ => .extend .empty

section

variable {calls : List FormCall} {call : FormCall} {place : Nat} {r : Registry}

theorem formsAfter_concat (calls : List FormCall) (call : FormCall) :
    formsAfter (calls ++ [call]) = call.apply (formsAfter calls) := by
  rw [formsAfter, List.foldl_append]
  rfl

theorem getElem?_toList {α : Type} {x : Option α} {n : Nat} {a : α}
    (h : x.toList[n]? = some a) : x = some a ∧ n = 0 := by
  cases x with
  | none => contradiction
  | some b =>
      rw [Option.toList_some, List.getElem?_singleton] at h
      split at h
      · next hn => exact ⟨h, hn⟩
      · contradiction

/-- A call opens the form at a place, or there was a form at the place, and the call
is an operation on it or leaves it. -/
theorem FormCall.getElem?_apply {forms : List Registry} (h : (call.apply forms)[place]? = some r) :
    (call.opened? = some r ∧ forms.length = place) ∨
      ∃ before, forms[place]? = some before ∧
        r = before.runBy Registry.operate (call.operationAt? place).toList := by
  cases call with
  | act p op =>
      right
      rw [apply, List.getElem?_modify] at h
      obtain ⟨before, hbefore, rfl⟩ := Option.map_eq_some_iff.1 h
      refine ⟨before, hbefore, ?_⟩
      rw [operationAt?]
      split <;> rfl
  | openNew | openDefinition d =>
      rw [apply] at h
      · rcases Nat.lt_or_ge place forms.length with hplace | hplace
        · rw [List.getElem?_append_left hplace] at h
          exact .inr ⟨r, h, rfl⟩
        · left
          rw [List.getElem?_append_right hplace] at h
          obtain ⟨hopened, hindex⟩ := getElem?_toList h
          exact ⟨hopened, by omega⟩
      · exact nofun

/-- Every form was opened by a call, and has seen the operations on it since. -/
theorem getElem?_formsAfter (h : (formsAfter calls)[place]? = some r) :
    ∃ before call after opened, calls = before ++ call :: after ∧
      (formsAfter before).length = place ∧ call.opened? = some opened ∧
      r = opened.runBy Registry.operate (after.filterMap (FormCall.operationAt? place)) := by
  induction calls using List.reverseRecOn generalizing r with
  | nil => contradiction
  | append_singleton calls call ih =>
      rw [formsAfter_concat] at h
      rcases FormCall.getElem?_apply h with ⟨hopened, hplace⟩ | ⟨earlier, hearlier, rfl⟩
      · exact ⟨calls, call, [], r, rfl, hplace, hopened, rfl⟩
      · obtain ⟨before, opening, after, opened, rfl, hplace, hopened, rfl⟩ := ih hearlier
        refine ⟨before, opening, after ++ [call], opened, by simp, hplace, hopened, ?_⟩
        have hlast : [call].filterMap (FormCall.operationAt? place) =
            (call.operationAt? place).toList := by
          rw [List.filterMap_cons]
          cases call.operationAt? place <;> rfl
        rw [List.filterMap_append, hlast]
        exact List.foldl_append.symm

/-! ### Texts of the forms -/

/-- A form is opened with the default texts, and those of its definition in front. -/
theorem messages_of_opened? (h : call.opened? = some r) :
    r.messages = MessageTable.afterEdits call.firstEdits := by
  cases call with
  | openNew =>
      obtain rfl := Option.some.inj h
      rfl
  | openDefinition d =>
      rw [FormCall.opened?] at h
      cases hbuild : d.build with
      | error e =>
          rw [hbuild] at h
          contradiction
      | ok built =>
          rw [hbuild] at h
          obtain rfl := Option.some.inj h
          exact (Registry.install_eq_ok (Registry.install_of_build hbuild)).2.2.1
  | act place op => contradiction

/-- An operation edits the texts of the form as it says. -/
theorem messages_operate (r : Registry) (op : Operation) :
    (r.operate op).2.messages = r.messages.edit (editOf (op, (r.operate op).1)) := by
  cases op with
  | field name call => rfl
  | form a =>
      by_cases h : ∃ texts, a = .replaceMessages texts
      · obtain ⟨texts, rfl⟩ := h
        exact texts.ofPairs_entries.symm
      · have hedit : editOf (.form a, (r.step a).1) = .extend (addedTexts (a, (r.step a).1)) := by
          cases a with
          | replaceMessages texts => exact absurd ⟨texts, rfl⟩ h
          | install | installDefinition | setValue | patchValues | markTouched | markAllTouched
          | validate | validateAll | reset | setMessage | extendMessages | isValid | errors
          | item => rfl
        have hstep := r.messages_step (a := a) fun texts ha => h ⟨texts, ha⟩
        exact hstep.trans (by rw [Registry.operate, hedit]; rfl)

/-- Some operations are a row of edits of the texts. -/
theorem messages_runBy (r : Registry) (ops : List Operation) :
    (r.runBy Registry.operate ops).messages =
      ((r.history Registry.operate ops).map editOf).foldl MessageTable.edit r.messages := by
  refine Registry.history_induction
    (P := fun after done =>
      after.messages = (done.map editOf).foldl MessageTable.edit r.messages) rfl ?_ ops
  intro after done op h
  rw [messages_operate, h, List.map_append, List.foldl_append]
  rfl

end

namespace MessageTable

/-- A table that is made from a source and then edited gives each code the text of
the last write since the last replacement, and has as many texts as there are codes
in these writes.  It is the same as another table when both give each code the same,
whatever edits have made them; so extending is associative, the texts of the
extension go first, and the table without texts changes nothing.  Where a program
opens several forms, the texts of each start with the default ones, those of its
definition in front, and go on with the edits of its own operations; nothing that is
done to other forms or to other definitions shows. -/
theorem texts_of_last_writes :
    (∀ (start : Source) (edits : List Edit),
      let t := afterEdits (.replace start :: edits)
      let writes := recentWrites (.replace start :: edits)
      (∀ code, t.get? code = lastOf writes code) ∧
        t.size = (writes.map Prod.fst).toFinset.card ∧
        ∀ other : MessageTable, (t == other) = true ↔ ∀ code, t.get? code = other.get? code) ∧
    (∀ a b c : MessageTable,
      ((a.extend b).extend c == a.extend (b.extend c)) = true ∧
        (∀ code, (a.extend b).get? code = (b.get? code).or (a.get? code)) ∧
        (empty.extend a == a) = true ∧ (a.extend empty == a) = true) ∧
    (∀ (calls : List FormCall) (place : Nat) (r : Registry),
      (formsAfter calls)[place]? = some r →
        ∃ before call after opened, calls = before ++ call :: after ∧
          (formsAfter before).length = place ∧ call.opened? = some opened ∧
          let ops := after.filterMap (FormCall.operationAt? place)
          r.messages =
            afterEdits (call.firstEdits ++ (opened.history Registry.operate ops).map editOf)) ∧
    ∀ d : Definition, d.messageTable = afterEdits [.replace .defaults, .extend d.messages] := by
  refine ⟨?_, ?_, ?_, fun d => rfl⟩
  · intro start edits t writes
    exact ⟨get?_afterEdits _, size_afterEdits _, fun other => beq_iff⟩
  · intro a b c
    exact ⟨extend_assoc a b c, get?_extend a b, empty_extend a, extend_empty a⟩
  · intro calls place r h
    obtain ⟨before, call, after, opened, hcalls, hplace, hopened, rfl⟩ := getElem?_formsAfter h
    refine ⟨before, call, after, opened, hcalls, hplace, hopened, ?_⟩
    rw [messages_runBy, messages_of_opened? hopened]
    exact List.foldl_append.symm

/-- Of two new forms the one that was edited shows its own text, and the other one
still has the default texts. -/
theorem texts_of_last_writes_of_two_forms :
    let calls : List FormCall :=
      [.openNew, .openNew, .act 0 (.form (.setMessage "required" "Fill me in"))]
    (formsAfter calls)[1]? = some .new ∧
      ((formsAfter calls)[0]?.bind fun r => r.messages.get? "required") = some "Fill me in" ∧
      ∃ before call after opened, calls = before ++ call :: after ∧
        (formsAfter before).length = 1 ∧ call.opened? = some opened ∧
        let ops := after.filterMap (FormCall.operationAt? 1)
        Registry.new.messages =
          afterEdits (call.firstEdits ++ (opened.history Registry.operate ops).map editOf) := by
  intro calls
  have hforms : (formsAfter calls)[1]? = some .new := rfl
  exact ⟨hforms, rfl, texts_of_last_writes.2.2.1 calls 1 .new hforms⟩

end MessageTable

end FormRules
