import FormRules.Form.Control
import FormRules.Form.RuleSpec
import FormRules.Message
import FormRules.Rule.Resolver

/-!
# Forms

A registry holds the fields of one form in the order of their declaration, each
under a key of its own, which is the name of the field.  Installing
specifications replaces all fields at once or changes nothing.  Writing a value
checks the field anew; cross-field checks look up the other field at the time of
the check.  A call that may be refused gives back the form in either case.
-/

namespace FormRules

/-- A form. -/
structure Registry where
  resolver : Resolver
  messages : MessageTable
  /-- The fields in the order of their declaration, each with its key. -/
  entries : List (String × Control)
  /-- No two fields have one key. -/
  distinct : (entries.map Prod.fst).Nodup
  /-- Every field has its key for a name. -/
  keyed : ∀ entry ∈ entries, entry.2.name = entry.1
  /-- How often fields have been installed. -/
  generation : Nat

namespace Registry

/-- What comes of a call that may be refused: a result or the reason of the
refusal, and in either case the form after the call. -/
structure Reply (α : Type) where
  result : Except RuleError α
  form : Registry

namespace Reply

variable {α β : Type}

/-- Go on with the result and the form if the call is accepted. -/
def andThen (x : Reply α) (next : α → Registry → Reply β) : Reply β :=
  match x.result with
  | .ok a => next a x.form
  | .error e => ⟨.error e, x.form⟩

/-- The form after a call, for a caller that gives up if the call is refused. -/
def accepted (x : Reply α) : Except RuleError Registry := x.result.map fun _ => x.form

end Reply

/-- A form without fields, with a factory and a message table. -/
def create (factory : Factory) (messages : MessageTable) : Registry where
  resolver := ⟨factory⟩
  messages := messages
  entries := []
  distinct := List.nodup_nil
  keyed := fun _ hentry => absurd hentry List.not_mem_nil
  generation := 0

/-- A form without fields, with the standard rules and the default texts. -/
def new : Registry := create .standard .defaults

instance : Inhabited Registry := ⟨new⟩

/-- A form without fields, with the rules of a factory and the default texts. -/
def withFactory (factory : Factory) : Registry := create factory .defaults

/-- Replace the message table. -/
def withMessages (r : Registry) (messages : MessageTable) : Registry :=
  { r with messages := messages }

/-- The keys of the fields in the order of their declaration. -/
def fields (r : Registry) : List String := r.entries.map Prod.fst

/-- The fields in the order of their declaration. -/
def controls (r : Registry) : List Control := r.entries.map Prod.snd

/-- The number of fields. -/
def size (r : Registry) : Nat := r.entries.length

/-- Has the form no fields? -/
def isEmpty (r : Registry) : Bool := r.entries.isEmpty

/-- The field under a key. -/
def control? (r : Registry) (field : String) : Option Control :=
  r.entries.lookup field

/-- The value of a field, if it is declared and has one. -/
def item? (r : Registry) (field : String) : Option Value :=
  match r.control? field with
  | some c =>
      match c.state.value with
      | .null => none
      | value => some value
  | none => none

/-- The form as a lookup for cross-field checks. -/
def lookup (r : Registry) : Lookup := r.item?

/-- Build the fields of some specifications, each under the name that its
specification gives it.  `seen` are the keys so far.  The first specification
that repeats a key, or whose rules do not compile, is the error. -/
def buildControls (resolver : Resolver) :
    List String → List RuleSpec → Except RuleError (List (String × Control))
  | _, [] => .ok []
  | seen, spec :: specs =>
      if spec.field ∈ seen then
        .error (.duplicateField spec.field)
      else
        match resolver.compile spec.rules with
        | .error e => .error (e.forField spec.field)
        | .ok chain =>
            match buildControls resolver (spec.field :: seen) specs with
            | .error e => .error e
            | .ok entries => .ok ((spec.field, .new spec.field chain) :: entries)

/-- What it takes to build the fields of one specification and more. -/
theorem buildControls_cons_eq_ok {resolver : Resolver} {seen : List String} {spec : RuleSpec}
    {specs : List RuleSpec} {built : List (String × Control)}
    (h : buildControls resolver seen (spec :: specs) = .ok built) :
    ∃ chain rest, spec.field ∉ seen ∧ resolver.compile spec.rules = .ok chain ∧
      buildControls resolver (spec.field :: seen) specs = .ok rest ∧
      (spec.field, .new spec.field chain) :: rest = built := by
  by_cases hseen : spec.field ∈ seen
  · simp [buildControls, hseen] at h
  · cases hchain : resolver.compile spec.rules with
    | error e => simp [buildControls, hseen, hchain] at h
    | ok chain =>
        cases hrest : buildControls resolver (spec.field :: seen) specs with
        | error e => simp [buildControls, hseen, hchain, hrest] at h
        | ok rest =>
            rw [buildControls, if_neg hseen, hchain] at h
            simp only [hrest, Except.ok.injEq] at h
            exact ⟨chain, rest, hseen, rfl, rfl, h⟩

theorem keyed_buildControls {resolver : Resolver} {seen : List String} {specs : List RuleSpec}
    {entries : List (String × Control)} (h : buildControls resolver seen specs = .ok entries) :
    (entries.map Prod.fst).Nodup ∧ ∀ entry ∈ entries, entry.1 ∉ seen ∧ entry.2.name = entry.1 := by
  -- The keys seen grow with every field, so the later ones are new to the first one too.
  induction specs generalizing seen entries with
  | nil =>
      obtain rfl : [] = entries := Except.ok.inj h
      exact ⟨List.nodup_nil, fun _ hentry => absurd hentry List.not_mem_nil⟩
  | cons spec specs ih =>
      obtain ⟨chain, rest, hseen, -, hrest, rfl⟩ := buildControls_cons_eq_ok h
      obtain ⟨hnodup, hlater⟩ := ih hrest
      have hfirst : spec.field ∉ rest.map Prod.fst := by
        intro hmem
        obtain ⟨entry, hentry, hkey⟩ := List.mem_map.1 hmem
        exact (hlater entry hentry).1 (hkey ▸ List.mem_cons_self)
      refine ⟨List.nodup_cons.2 ⟨hfirst, hnodup⟩, ?_⟩
      intro entry hentry
      rcases List.mem_cons.1 hentry with rfl | hentry
      · exact ⟨hseen, rfl⟩
      · obtain ⟨hnew, hname⟩ := hlater entry hentry
        exact ⟨fun hin => hnew (List.mem_cons_of_mem _ hin), hname⟩

/-- Put fields that have been built in the place of those that are there. -/
def replaceControls (r : Registry) {resolver : Resolver} {specs : List RuleSpec}
    {entries : List (String × Control)} (h : buildControls resolver [] specs = .ok entries) :
    Registry :=
  { r with
    entries := entries
    distinct := (keyed_buildControls h).1
    keyed := fun entry hentry => ((keyed_buildControls h).2 entry hentry).2
    generation := r.generation + 1 }

/-- Install specifications: the new fields replace the old ones if all rules
compile.  The result are the new fields. -/
def install (r : Registry) (specs : List RuleSpec) : Reply (List (String × Control)) :=
  match h : buildControls r.resolver [] specs with
  | .error e => ⟨.error e, r⟩
  | .ok entries => ⟨.ok entries, r.replaceControls h⟩

/-- The keys and the names of some fields. -/
def tags (entries : List (String × Control)) : List (String × String) :=
  entries.map fun entry => (entry.1, entry.2.name)

/-- Put fields with the same keys and names in the place of those that are
there. -/
def withEntries (r : Registry) (entries : List (String × Control))
    (h : tags entries = tags r.entries) : Registry :=
  { r with
    entries := entries
    distinct := by
      have hkeys : entries.map Prod.fst = r.entries.map Prod.fst := by
        simpa [tags, Function.comp_def] using congrArg (List.map Prod.fst) h
      rw [hkeys]
      exact r.distinct
    keyed := by
      intro entry hentry
      have htag : (entry.1, entry.2.name) ∈ tags r.entries := h ▸ List.mem_map_of_mem hentry
      obtain ⟨before, hbefore, hsame⟩ := List.mem_map.1 htag
      obtain ⟨hkey, hname⟩ := Prod.mk.inj hsame
      rw [← hkey, ← hname]
      exact r.keyed before hbefore }

/-- Change the state of every field. -/
def mapStates (r : Registry) (f : Control → FieldState → FieldState) : Registry :=
  r.withEntries (r.entries.map fun entry => (entry.1, entry.2.modify (f entry.2))) (by
    simp [tags, Function.comp_def])

/-- Change the state of the field under a key. -/
def modify (r : Registry) (field : String) (f : FieldState → FieldState) : Registry :=
  r.withEntries
    (r.entries.map fun entry =>
      if entry.1 = field then (entry.1, entry.2.modify f) else entry) (by
    rw [tags, tags, List.map_map]
    apply List.map_congr_left
    intro entry _
    rw [Function.comp_apply]
    split <;> rfl)

/-- Check one field anew; the result are its failures. -/
def validate (r : Registry) (field : String) : Reply FailureSet :=
  match r.control? field with
  | some c =>
      let failures := c.runValidators r.lookup
      ⟨.ok failures, r.modify field (.setFailures failures)⟩
  | none => ⟨.error (.unknownField field), r⟩

/-- Write the value of a field and check the field anew. -/
def setValue (r : Registry) (field : String) (value : Value) : Reply FailureSet :=
  match r.control? field with
  | some _ => (r.modify field (.setValue value)).validate field
  | none => ⟨.error (.unknownField field), r⟩

/-- Do the chains of all fields pass?  Nothing is stored. -/
def isValid (r : Registry) : Bool :=
  r.controls.all fun c => (c.runValidators r.lookup).isEmpty

/-- Store results at fields, one after the other.  `valid` says whether all
results so far have passed, and so does what is given back. -/
def storeEach (valid : Bool) :
    List (String × Control) → List FailureSet → Bool × List (String × Control)
  | entry :: entries, failures :: results =>
      let rest := storeEach (valid && failures.isEmpty) entries results
      (rest.1, (entry.1, entry.2.modify (.setFailures failures)) :: rest.2)
  | entries, _ => (valid, entries)

theorem tags_storeEach (valid : Bool) (entries : List (String × Control))
    (results : List FailureSet) : tags (storeEach valid entries results).2 = tags entries := by
  induction entries generalizing valid results with
  | nil => cases results <;> rfl
  | cons entry entries ih =>
      cases results with
      | nil => rfl
      | cons failures results =>
          rw [storeEach, tags, List.map_cons, ← tags, ih]
          rfl

/-- Check all fields against the form as it is and then store the results; the
answer says whether all fields pass. -/
def validateAll (r : Registry) : Bool × Registry :=
  let results := r.controls.map fun c => c.runValidators r.lookup
  let stored := storeEach true r.entries results
  (stored.1, r.withEntries stored.2 (tags_storeEach true r.entries results))

/-- The writes of an object: the members that name a field, in order.  A list
or an object is no value for a field. -/
def readPatch (r : Registry) : List (String × Json) → Except RuleError (List (String × Value))
  | [] => .ok []
  | (field, raw) :: members =>
      match r.control? field with
      | none => r.readPatch members
      | some _ =>
          match Value.ofJson? raw with
          | none => .error (.unsupportedValue field)
          | some value =>
              match r.readPatch members with
              | .error e => .error e
              | .ok writes => .ok ((field, value) :: writes)

/-- Make some writes one after the other and check nothing. -/
def writeAll (r : Registry) (writes : List (String × Value)) : Registry :=
  writes.foldl (fun r write => r.modify write.1 (.setValue write.2)) r

/-- Write the members of an object, then check all fields anew.  Members that
name no field do not count.  Nothing is written if one of the values cannot
be. -/
def patchValues (r : Registry) (members : List (String × Json)) : Reply Unit :=
  match r.readPatch members with
  | .error e => ⟨.error e, r⟩
  | .ok writes => ⟨.ok (), (r.writeAll writes).validateAll.2⟩

/-- The user leaves a field. -/
def markTouched (r : Registry) (field : String) : Reply Unit :=
  match r.control? field with
  | some _ => ⟨.ok (), r.modify field .markTouched⟩
  | none => ⟨.error (.unknownField field), r⟩

/-- The user has seen every field. -/
def markAllTouched (r : Registry) : Registry :=
  r.mapStates fun _ => .markTouched

/-- Return every field to the state in which it was declared. -/
def reset (r : Registry) : Registry :=
  r.mapStates fun _ _ => .fresh

/-- The texts to show at a field; nothing for a field that is unknown, or that
has nothing to show. -/
def errors (r : Registry) (field : String) (overrides : Option MessageTable) :
    Option (List String) := do
  let c ← r.control? field
  let failures ← c.state.surface
  some (r.messages.resolveAll overrides failures)

end Registry

end FormRules
