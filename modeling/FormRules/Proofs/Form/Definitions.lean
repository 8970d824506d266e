import FormRules.Proofs.Form.Texts

/-!
# Definitions

A definition can be built into a new form, or be installed into a form that
exists.  On a new form the two are the same.  Of several definitions that are
installed one after the other, the last accepted one gives the fields, and all
accepted ones give their texts, the later ones before the earlier ones.
-/

namespace FormRules

/-- The definitions that were accepted. -/
def acceptedDefinitions (calls : List (Definition × Answer)) : List Definition :=
  (calls.filter fun call => call.2.isAccepted).map Prod.fst

theorem acceptedDefinitions_concat (calls : List (Definition × Answer)) (d : Definition)
    (answer : Answer) :
    acceptedDefinitions (calls ++ [(d, answer)]) =
      acceptedDefinitions calls ++ if answer.isAccepted then [d] else [] := by
  unfold acceptedDefinitions
  rw [List.filter_append, List.map_append]
  cases haccepted : answer.isAccepted <;> simp [haccepted]

namespace Registry

/-- A call to install a definition, with its answer and the form after it. -/
def installDefinition (r : Registry) (d : Definition) : Answer × Registry :=
  r.step (.installDefinition d)

/-- The form has the fields of the last of some definitions, as nobody has used
them, and the texts of all of them in front of its first ones. -/
structure FormedBy (resolver : Resolver) (messages : MessageTable) (ds : List Definition)
    (r : Registry) : Prop where
  resolver_eq : r.resolver = resolver
  declared : List.Forall₂ (RuleSpec.Declares resolver) (ds.getLast?.getD .empty).fields r.controls
  messages_eq : r.messages = (ds.map Definition.messages).foldl MessageTable.extend messages
  generation : r.generation = ds.length

section

variable {r after : Registry} {d : Definition} {specs : List RuleSpec} {resolver : Resolver}
  {messages : MessageTable}

/-- The texts of a form play no part in an installation. -/
theorem install_withMessages (hinstall : r.install specs = ⟨.ok after.entries, after⟩) :
    (r.withMessages messages).install specs =
      ⟨.ok after.entries, after.withMessages messages⟩ := by
  obtain ⟨hnodup, hdeclares, hgeneration, -, hresolver⟩ := install_eq_ok_iff.1 hinstall
  have hwith : (after.withMessages messages).entries = after.entries := rfl
  rw [← hwith]
  exact install_eq_ok_iff.2 ⟨hnodup, hdeclares, hgeneration, rfl, hresolver⟩

/-- Building a definition is installing it into a new form. -/
theorem build_eq_installInto (d : Definition) : d.build = (d.installInto .new).accepted := by
  rw [Definition.build]
  rcases installInto_cases d .new with ⟨e, hinstall, hinto⟩ | ⟨installed, hinstall, hinto⟩ <;>
    rw [hinto]
  · have hbuild := install_eq_error_iff.1 hinstall
    rw [install_of_buildControls_error (r := new.withMessages d.messageTable) hbuild]
    rfl
  · -- The texts are added before the installation here and after it there.
    have hmessages : installed.messages = .defaults := (install_eq_ok hinstall).2.2.1
    rw [install_withMessages hinstall, Definition.addTexts, hmessages]
    rfl

/-- A definition that is accepted replaces the fields and adds its texts. -/
theorem FormedBy.addTexts {ds : List Definition} {installed : Registry}
    (h : r.FormedBy resolver messages ds)
    (hinstall : r.install d.fields = ⟨.ok installed.entries, installed⟩) :
    (d.addTexts installed).FormedBy resolver messages (ds ++ [d]) := by
  obtain ⟨-, hdeclares, hgeneration, hmessages, hresolver⟩ := install_eq_ok_iff.1 hinstall
  constructor
  · exact hresolver.trans h.resolver_eq
  · rw [List.getLast?_concat, Option.getD_some, ← h.resolver_eq]
    exact hdeclares
  · rw [List.map_append, List.foldl_append, ← h.messages_eq, ← hmessages]
    rfl
  · rw [List.length_append, List.length_singleton, ← h.generation]
    exact hgeneration

/-- Each call to install a definition adds it to those that have formed the form,
or leaves the form. -/
theorem FormedBy.installDefinition {calls : List (Definition × Answer)}
    (h : r.FormedBy resolver messages (acceptedDefinitions calls)) (d : Definition) :
    (r.installDefinition d).2.FormedBy resolver messages
      (acceptedDefinitions (calls ++ [(d, (r.installDefinition d).1)])) := by
  rw [acceptedDefinitions_concat, Registry.installDefinition, step]
  rcases installInto_cases d r with ⟨e, -, hinto⟩ | ⟨installed, hinstall, hinto⟩ <;> rw [hinto]
  · simpa [Reply.conclude, Answer.isAccepted] using h
  · exact h.addTexts hinstall

end

/-- Building a definition and installing it into a new form give the same error
or the same form: one with the fields of the definition and its texts before the
default ones.  Installing a definition into any form is refused only for its
fields, and then the form stays as it was.  After any sequence of definitions,
the fields are those of the last one that was accepted, and the texts are those
of all accepted ones, the last first, before the ones at the start. -/
theorem definitions_in_turn :
    (∀ d : Definition, d.build = (d.installInto .new).accepted ∧
      ∀ built, d.build = .ok built →
        List.Forall₂ (RuleSpec.Declares .standard) d.fields built.controls ∧
          built.generation = 1 ∧
          ∀ code, built.messages.get? code =
            (d.messages.get? code).or (MessageTable.defaults.get? code)) ∧
    (∀ (r : Registry) (d : Definition),
      ((∃ after, d.installInto r = ⟨.ok (), after⟩) ↔
        (d.fields.map RuleSpec.field).Nodup ∧
          ∀ spec ∈ d.fields, ∃ chain, r.resolver.compile spec.rules = .ok chain) ∧
      ∀ e after, d.installInto r = ⟨.error e, after⟩ →
        after = r ∧ r.install d.fields = ⟨.error e, r⟩ ∧
          r.installDefinition d = (.refused e, r)) ∧
    ∀ (factory : Factory) (messages : MessageTable) (ds : List Definition),
      let start := create factory messages
      let r := start.runBy installDefinition ds
      let accepted := acceptedDefinitions (start.history installDefinition ds)
      List.Forall₂ (RuleSpec.Declares ⟨factory⟩) (accepted.getLast?.getD .empty).fields
          r.controls ∧
        r.generation = accepted.length ∧
        r.messages = (accepted.map Definition.messages).foldl MessageTable.extend messages ∧
        ∀ code, r.messages.get? code =
          (accepted.reverse.findSome? fun d => d.messages.get? code).or (messages.get? code) := by
  refine ⟨?_, ?_, ?_⟩
  · intro d
    refine ⟨build_eq_installInto d, ?_⟩
    intro built hbuilt
    obtain ⟨-, hdeclares, hgeneration, hmessages, -⟩ :=
      install_eq_ok_iff.1 (install_of_build hbuilt)
    refine ⟨hdeclares, hgeneration, ?_⟩
    intro code
    rw [hmessages]
    exact MessageTable.get?_extend _ _ code
  · intro r d
    rw [← exists_install_iff]
    rcases installInto_cases d r with ⟨e, hinstall, hinto⟩ | ⟨installed, hinstall, hinto⟩
    · refine ⟨?_, ?_⟩
      · simp [hinstall, hinto]
      · intro e' after hrefused
        obtain ⟨rfl, rfl⟩ : e = e' ∧ r = after := by simpa [hinto] using hrefused
        exact ⟨rfl, hinstall, by rw [installDefinition, step, hinto, Reply.conclude]⟩
    · refine ⟨⟨fun _ => ⟨installed, hinstall⟩, fun _ => ⟨_, hinto⟩⟩, ?_⟩
      intro e after hrefused
      simp [hinto] at hrefused
  · intro factory messages ds start r accepted
    have hformed : r.FormedBy ⟨factory⟩ messages accepted :=
      history_induction
        (P := fun r calls => r.FormedBy ⟨factory⟩ messages (acceptedDefinitions calls))
        ⟨rfl, .nil, rfl, rfl⟩ (fun _ _ d h => h.installDefinition d) ds
    refine ⟨hformed.declared, hformed.generation, hformed.messages_eq, ?_⟩
    intro code
    rw [hformed.messages_eq, MessageTable.get?_foldl_extend, ← List.map_reverse,
      List.findSome?_map]
    rfl

end Registry

end FormRules
