import FormRules.Form.Definition
import FormRules.Log.Event

/-!
# What forms report

The log events of the operations on forms, in the order in which they arise.
An operation that compiles rules has a logged form, which gives its result
together with its events; the others have a function for their events, with the
same arguments.
-/

namespace FormRules

/-- A result with the log events that arose on the way to it. -/
structure Logged (α : Type) where
  events : List LogEvent
  result : α

/-- Change the result. -/
def Logged.map {α β : Type} (f : α → β) (x : Logged α) : Logged β :=
  ⟨x.events, f x.result⟩

@[simp] theorem Logged.result_map {α β : Type} (f : α → β) (x : Logged α) :
    (x.map f).result = f x.result := rfl

/-- The event of resolving a token. -/
def Token.resolveEvent (t : Token) : LogEvent :=
  match CustomRule.ofName? t.name with
  | some _ => ⟨.trace, .resolver, "Resolving custom rule '" ++ t.display ++ "'"⟩
  | none => ⟨.trace, .resolver, "Resolving built-in rule '" ++ t.display ++ "'"⟩

namespace Resolver

/-- The validators of some tokens, with the events up to the first token that
has none. -/
def resolveLogged (r : Resolver) : List Token → Logged (Except RuleError (List Validator))
  | [] => ⟨[], .ok []⟩
  | t :: ts =>
      match r.resolve t with
      | .error e => ⟨[t.resolveEvent], .error e⟩
      | .ok v =>
          let rest := r.resolveLogged ts
          ⟨t.resolveEvent :: rest.events, rest.result.map (v :: ·)⟩

/-- The chain of a rule string, with the events; nothing of a malformed one is
resolved. -/
def compileLogged (r : Resolver) (rules : Option String) :
    Logged (Except RuleError (List Validator)) :=
  match Token.parseAll rules with
  | .error e => ⟨[], .error e⟩
  | .ok tokens => r.resolveLogged tokens

theorem result_resolveLogged (r : Resolver) (tokens : List Token) :
    (r.resolveLogged tokens).result = tokens.mapM r.resolve := by
  induction tokens with
  | nil => rfl
  | cons t ts ih =>
      rw [List.mapM_cons]
      unfold resolveLogged
      cases r.resolve t with
      | error e => rfl
      | ok v =>
          simp only [ih]
          cases ts.mapM r.resolve <;> rfl

theorem result_compileLogged (r : Resolver) (rules : Option String) :
    (r.compileLogged rules).result = r.compile rules := by
  unfold compileLogged compile
  cases Token.parseAll rules with
  | error e => rfl
  | ok tokens => exact r.result_resolveLogged tokens

end Resolver

namespace MessageTable

/-- The events of finding the texts of some failures: one for each code that
has none. -/
def resolveEvents (t : MessageTable) (overrides : Option MessageTable) (failures : FailureSet) :
    List LogEvent :=
  (failures.codes.filter fun code =>
    (override? overrides code).isNone && (t.get? code).isNone).map fun code =>
      ⟨.debug, .messages, "No message registered for failure code '" ++ code ++ "'"⟩

end MessageTable

namespace Registry

/-- The event of a field whose rules have been compiled. -/
def compiledEvent (field : String) (chain : List Validator) : LogEvent :=
  ⟨.trace, .registry,
    "Field '" ++ field ++ "' compiled with " ++ toString chain.length ++ " validator(s)"⟩

/-- The fields of some specifications, with the events up to the first one that
is refused. -/
def buildLogged (resolver : Resolver) :
    List String → List RuleSpec → Logged (Except RuleError (List (String × Control)))
  | _, [] => ⟨[], .ok []⟩
  | seen, spec :: specs =>
      if spec.field ∈ seen then
        ⟨[], .error (.duplicateField spec.field)⟩
      else
        let compiled := resolver.compileLogged spec.rules
        match compiled.result with
        | .error e => ⟨compiled.events, .error (e.forField spec.field)⟩
        | .ok chain =>
            let rest := buildLogged resolver (spec.field :: seen) specs
            ⟨compiled.events ++ compiledEvent spec.field chain :: rest.events,
              rest.result.map ((spec.field, .new spec.field chain) :: ·)⟩

theorem result_buildLogged (resolver : Resolver) (seen : List String) (specs : List RuleSpec) :
    (buildLogged resolver seen specs).result = buildControls resolver seen specs := by
  induction specs generalizing seen with
  | nil => rfl
  | cons spec specs ih =>
      unfold buildLogged buildControls
      split
      · rfl
      · simp only [resolver.result_compileLogged]
        cases resolver.compile spec.rules with
        | error e => rfl
        | ok chain =>
            simp only [ih]
            cases buildControls resolver (spec.field :: seen) specs <;> rfl

/-- The event of an installation that is refused. -/
def refusedEvent (e : RuleError) : LogEvent :=
  ⟨.warn, .registry, "Rule set installation failed: " ++ e.message⟩

/-- The event of an installation that leaves this form. -/
def installedEvent (after : Registry) : LogEvent :=
  ⟨.debug, .registry, "Installed " ++ toString after.size ++ " field(s), generation " ++
    toString after.generation⟩

/-- Install specifications, with the events. -/
def installLogged (r : Registry) (specs : List RuleSpec) :
    Logged (Reply (List (String × Control))) :=
  let built := buildLogged r.resolver [] specs
  match h : built.result with
  | .error e => ⟨built.events ++ [refusedEvent e], ⟨.error e, r⟩⟩
  | .ok entries =>
      let after := r.replaceControls ((result_buildLogged r.resolver [] specs).symm.trans h)
      ⟨built.events ++ [after.installedEvent], ⟨.ok entries, after⟩⟩

theorem result_installLogged (r : Registry) (specs : List RuleSpec) :
    (r.installLogged specs).result = r.install specs := by
  have h := result_buildLogged r.resolver [] specs
  unfold installLogged install
  dsimp only
  split <;> split <;> simp_all [replaceControls]

/-- The events of writing the members of an object: one for each that names no
field, up to the first that cannot be written. -/
def patchEvents (r : Registry) : List (String × Json) → List LogEvent
  | [] => []
  | (field, raw) :: members =>
      match r.control? field with
      | none =>
          ⟨.debug, .registry, "Ignoring value for undeclared field '" ++ field ++ "'"⟩ ::
            r.patchEvents members
      | some _ => if (Value.ofJson? raw).isNone then [] else r.patchEvents members

/-- The events of finding the texts to show at a field. -/
def errorsEvents (r : Registry) (field : String) (overrides : Option MessageTable) :
    List LogEvent :=
  match (r.control? field).bind fun c => c.state.surface with
  | some failures => r.messages.resolveEvents overrides failures
  | none => []

end Registry

namespace Definition

/-- Build a definition into a new form, with the events. -/
def buildLogged (d : Definition) : Logged (Except RuleError Registry) :=
  ((Registry.new.withMessages d.messageTable).installLogged d.fields).map Registry.Reply.accepted

/-- Install a definition into a form, with the events. -/
def installIntoLogged (d : Definition) (r : Registry) : Logged (Registry.Reply Unit) :=
  (r.installLogged d.fields).map fun x =>
    x.andThen fun _ installed => ⟨.ok (), d.addTexts installed⟩

theorem result_buildLogged (d : Definition) : d.buildLogged.result = d.build := by
  rw [buildLogged, Logged.result_map, Registry.result_installLogged, build]

theorem result_installIntoLogged (d : Definition) (r : Registry) :
    (d.installIntoLogged r).result = d.installInto r := by
  simp [installIntoLogged, installInto, Registry.result_installLogged]

/-- The event of reading a file that is a text. -/
def loadEvents (path : String) (contents : Option ByteArray) : List LogEvent :=
  match contents.bind String.fromUTF8? with
  | some _ => [⟨.debug, .config, "Loaded form definition from " ++ Text.quoted path⟩]
  | none => []

end Definition

end FormRules
