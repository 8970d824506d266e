import FormRules.Proofs.Form.Run
import FormRules.Proofs.Form.States
import FormRules.Proofs.Rule.Refusal
import FormRules.Proofs.Traversal

/-!
# Installing specifications

Specifications are read in their order.  The first one that repeats a field, or
whose rules do not compile, decides the error, and the form stays as it was.
If there is none, the form holds one new field for each specification.
-/

namespace FormRules

/-- The field of the specification at a place is the field of an earlier one. -/
def RuleSpec.Repeats (specs : List RuleSpec) (i : Nat) : Prop :=
  ∃ spec, specs[i]? = some spec ∧ spec.field ∈ (specs.take i).map RuleSpec.field

/-- The specification at a place cannot be installed after the ones before
it. -/
def RuleSpec.Offends (resolver : Resolver) (specs : List RuleSpec) (i : Nat) : Prop :=
  Repeats specs i ∨ ∃ spec e, specs[i]? = some spec ∧ resolver.compile spec.rules = .error e

/-- A field as a specification declares it, before anyone has used it. -/
structure RuleSpec.Declares (resolver : Resolver) (spec : RuleSpec) (c : Control) : Prop where
  name : c.name = spec.field
  chain : resolver.compile spec.rules = .ok c.validators
  value : c.state.value = .null
  untouched : c.state.touched = false
  pristine : c.state.dirty = false
  passing : c.state.failures = .empty

/-- A field that is declared, under the name that the specification gives it. -/
def RuleSpec.DeclaresEntry (resolver : Resolver) (spec : RuleSpec) (entry : String × Control) :
    Prop :=
  entry.1 = spec.field ∧ spec.Declares resolver entry.2

namespace RuleSpec

variable {resolver : Resolver} {specs : List RuleSpec}

theorem declares_new {spec : RuleSpec} {chain : List Validator}
    (h : resolver.compile spec.rules = .ok chain) :
    spec.Declares resolver (.new spec.field chain) :=
  ⟨rfl, h, rfl, rfl, rfl, rfl⟩

/-- A field that is declared has nothing but its name and its chain. -/
theorem Declares.eq_new {spec : RuleSpec} {c : Control} (h : spec.Declares resolver c) :
    c = .new spec.field c.validators := by
  obtain ⟨name, validators, value, touched, dirty, failures⟩ := c
  obtain ⟨rfl, -, rfl, rfl, rfl, rfl⟩ := h
  rfl

theorem repeats_iff {i : Nat} {spec : RuleSpec} (h : specs[i]? = some spec) :
    Repeats specs i ↔ spec.field ∈ (specs.take i).map RuleSpec.field := by
  unfold Repeats
  rw [h]
  simp

theorem not_offends_iff {i : Nat} {spec : RuleSpec} (h : specs[i]? = some spec) :
    ¬ Offends resolver specs i ↔
      spec.field ∉ (specs.take i).map RuleSpec.field ∧
        ∃ chain, resolver.compile spec.rules = .ok chain := by
  unfold Offends
  rw [not_or, repeats_iff h]
  apply and_congr_right'
  rw [h]
  cases hcompile : resolver.compile spec.rules <;> simp [hcompile]

end RuleSpec

namespace Registry

variable {resolver : Resolver}

/-- The fields of one more specification. -/
theorem buildControls_cons_ok {seen : List String} {spec : RuleSpec} {chain : List Validator}
    (hseen : spec.field ∉ seen) (hchain : resolver.compile spec.rules = .ok chain)
    (specs : List RuleSpec) :
    buildControls resolver seen (spec :: specs) =
      (buildControls resolver (spec.field :: seen) specs).map
        ((spec.field, .new spec.field chain) :: ·) := by
  rw [buildControls, if_neg hseen, hchain]
  cases buildControls resolver (spec.field :: seen) specs <;> rfl

/-- Specifications whose fields have been built only add to the names seen. -/
theorem buildControls_append {seen : List String} {earlier : List RuleSpec}
    {built : List (String × Control)} (h : buildControls resolver seen earlier = .ok built)
    (specs : List RuleSpec) :
    buildControls resolver seen (earlier ++ specs) =
      (buildControls resolver ((earlier.map RuleSpec.field).reverse ++ seen) specs).map
        (built ++ ·) := by
  -- The names seen grow with every field that is built.
  induction earlier generalizing seen built with
  | nil =>
      rw [buildControls, Except.ok.injEq] at h
      subst h
      cases h : buildControls resolver seen specs <;> simp [h, Except.map]
  | cons spec earlier ih =>
      obtain ⟨chain, rest, hseen, hchain, hrest, rfl⟩ := buildControls_cons_eq_ok h
      rw [List.cons_append, buildControls_cons_ok hseen hchain, ih hrest]
      simp only [List.map_cons, List.reverse_cons, List.append_assoc, List.singleton_append]
      cases buildControls resolver _ specs <;> rfl

/-- Fields are built when no name is repeated or has been seen before, and they
are those that the specifications declare. -/
theorem buildControls_eq_ok_iff {seen : List String} {specs : List RuleSpec}
    {built : List (String × Control)} :
    buildControls resolver seen specs = .ok built ↔
      (specs.map RuleSpec.field).Nodup ∧ (∀ spec ∈ specs, spec.field ∉ seen) ∧
        List.Forall₂ (RuleSpec.DeclaresEntry resolver) specs built := by
  induction specs generalizing seen built with
  | nil =>
      rw [buildControls, Except.ok.injEq, List.forall₂_nil_left_iff, eq_comm]
      simp
  | cons spec specs ih =>
      rw [List.map_cons, List.nodup_cons, List.forall_mem_cons]
      constructor
      · intro h
        obtain ⟨chain, rest, hseen, hchain, hrest, rfl⟩ := buildControls_cons_eq_ok h
        obtain ⟨hnodup, hnew, hdeclares⟩ := ih.1 hrest
        refine ⟨⟨?_, hnodup⟩, ⟨hseen, ?_⟩, .cons ⟨rfl, RuleSpec.declares_new hchain⟩ hdeclares⟩
        · intro hmem
          obtain ⟨later, hlater, hfield⟩ := List.mem_map.1 hmem
          exact hnew later hlater (hfield ▸ List.mem_cons_self)
        · exact fun later hlater hmem => hnew later hlater (List.mem_cons_of_mem _ hmem)
      · rintro ⟨⟨hfield, hnodup⟩, ⟨hseen, hnew⟩, hdeclares⟩
        cases hdeclares with
        | @cons _ entry _ rest hfirst hrest =>
            obtain ⟨key, c⟩ := entry
            obtain ⟨rfl, hfirst⟩ : key = spec.field ∧ spec.Declares resolver c := hfirst
            have hnew' : ∀ later ∈ specs, later.field ∉ spec.field :: seen := by
              intro later hlater hmem
              rcases List.mem_cons.1 hmem with hsame | hmem
              · exact hfield (hsame ▸ List.mem_map_of_mem hlater)
              · exact hnew later hlater hmem
            rw [buildControls_cons_ok hseen hfirst.chain, ih.2 ⟨hnodup, hnew', hrest⟩,
              ← hfirst.eq_new]
            rfl

/-- The fields that are built are those that the specifications declare. -/
theorem declares_of_buildControls {seen : List String} {specs : List RuleSpec}
    {built : List (String × Control)} (h : buildControls resolver seen specs = .ok built) :
    List.Forall₂ (RuleSpec.DeclaresEntry resolver) specs built :=
  (buildControls_eq_ok_iff.1 h).2.2

/-- The loop over the specifications does not stop before the first offence:
the fields of the specifications so far have been built. -/
theorem buildControls_take_of_not_offends {specs : List RuleSpec} {i : Nat}
    (hi : i ≤ specs.length) (h : ∀ j < i, ¬ RuleSpec.Offends resolver specs j) :
    ∃ built, buildControls resolver [] (specs.take i) = .ok built := by
  induction i with
  | zero => exact ⟨[], rfl⟩
  | succ i ih =>
      obtain ⟨built, hbuilt⟩ := ih (by omega) fun j hj => h j (by omega)
      have hspec : specs[i]? = some specs[i] := List.getElem?_eq_getElem hi
      obtain ⟨hnew, chain, hchain⟩ := (RuleSpec.not_offends_iff hspec).1 (h i (by omega))
      have hseen : specs[i].field ∉ ((specs.take i).map RuleSpec.field).reverse ++ [] := by
        simpa using hnew
      refine ⟨built ++ [(specs[i].field, .new specs[i].field chain)], ?_⟩
      rw [List.take_add_one, hspec, Option.toList_some, buildControls_append hbuilt,
        buildControls_cons_ok hseen hchain]
      rfl

/-- A specification after those whose fields have been built is read with their
names seen. -/
theorem buildControls_at {specs : List RuleSpec} {i : Nat} {spec : RuleSpec}
    {built : List (String × Control)} (hspec : specs[i]? = some spec)
    (hbuilt : buildControls resolver [] (specs.take i) = .ok built) :
    buildControls resolver [] specs =
      (buildControls resolver ((specs.take i).map RuleSpec.field).reverse
        (spec :: specs.drop (i + 1))).map (built ++ ·) := by
  obtain ⟨hi, hget⟩ := List.getElem?_eq_some_iff.1 hspec
  have hsplit : specs.take i ++ spec :: specs.drop (i + 1) = specs := by
    rw [← hget, List.getElem_cons_drop, List.take_append_drop]
  have happend := buildControls_append hbuilt (spec :: specs.drop (i + 1))
  rwa [hsplit, List.append_nil] at happend

/-- A first offence that repeats a field is refused for that, whatever its
rules. -/
theorem buildControls_of_first_repeats {specs : List RuleSpec} {i : Nat} {spec : RuleSpec}
    (hspec : specs[i]? = some spec) (hrepeats : RuleSpec.Repeats specs i)
    (hfirst : ∀ j < i, ¬ RuleSpec.Offends resolver specs j) :
    buildControls resolver [] specs = .error (.duplicateField spec.field) := by
  obtain ⟨hi, -⟩ := List.getElem?_eq_some_iff.1 hspec
  obtain ⟨built, hbuilt⟩ := buildControls_take_of_not_offends (by omega) hfirst
  have hseen : spec.field ∈ ((specs.take i).map RuleSpec.field).reverse :=
    List.mem_reverse.2 ((RuleSpec.repeats_iff hspec).1 hrepeats)
  rw [buildControls_at hspec hbuilt, buildControls, if_pos hseen]
  rfl

/-- A first offence that repeats no field is refused for its rules. -/
theorem buildControls_of_first_refused {specs : List RuleSpec} {i : Nat} {spec : RuleSpec}
    {cause : RuleError} (hspec : specs[i]? = some spec)
    (hnew : ¬ RuleSpec.Repeats specs i) (hcause : resolver.compile spec.rules = .error cause)
    (hfirst : ∀ j < i, ¬ RuleSpec.Offends resolver specs j) :
    buildControls resolver [] specs = .error (cause.forField spec.field) := by
  obtain ⟨hi, -⟩ := List.getElem?_eq_some_iff.1 hspec
  obtain ⟨built, hbuilt⟩ := buildControls_take_of_not_offends (by omega) hfirst
  have hseen : spec.field ∉ ((specs.take i).map RuleSpec.field).reverse := by
    rwa [List.mem_reverse, ← RuleSpec.repeats_iff hspec]
  rw [buildControls_at hspec hbuilt, buildControls, if_neg hseen, hcause]
  rfl

section

variable {r after : Registry} {specs : List RuleSpec}

/-- The keys of a form are the names of its fields, so it is enough to look at the
fields. -/
theorem forall₂_declaresEntry_iff {resolver : Resolver} :
    List.Forall₂ (RuleSpec.DeclaresEntry resolver) specs r.entries ↔
      List.Forall₂ (RuleSpec.Declares resolver) specs r.controls := by
  rw [r.entries_eq, List.forall₂_map_right_iff]
  constructor
  · exact List.Forall₂.imp fun _ _ h => h.2
  · exact List.Forall₂.imp fun _ _ h => ⟨h.name, h⟩

/-- An installation is refused when the fields cannot be built. -/
theorem install_of_buildControls_error {e : RuleError}
    (h : buildControls r.resolver [] specs = .error e) : r.install specs = ⟨.error e, r⟩ := by
  rcases r.install_cases specs with ⟨e', hbuild, hinstall⟩ | ⟨after, hbuild, -⟩
  · obtain rfl := Except.error.inj (h.symm.trans hbuild)
    exact hinstall
  · rw [h] at hbuild
    contradiction

/-- An installation replaces the fields, counts up, and changes nothing else. -/
theorem install_eq_ok (h : r.install specs = ⟨.ok after.entries, after⟩) :
    buildControls r.resolver [] specs = .ok after.entries ∧
      after.generation = r.generation + 1 ∧ after.messages = r.messages ∧
      after.resolver = r.resolver := by
  rcases r.install_cases specs with ⟨e, -, hinstall⟩ |
    ⟨after', hbuild, hgeneration, hmessages, hresolver, hinstall⟩
  · rw [hinstall] at h
    simp at h
  · obtain rfl : after' = after := (Registry.Reply.mk.inj (hinstall.symm.trans h)).2
    exact ⟨hbuild, hgeneration, hmessages, hresolver⟩

/-- Each field of an installation is declared by one of the specifications. -/
theorem declares_of_install {c : Control} (h : r.install specs = ⟨.ok after.entries, after⟩)
    (hc : c ∈ after.controls) : ∃ spec ∈ specs, spec.Declares r.resolver c := by
  obtain ⟨hbuilt, -⟩ := install_eq_ok h
  have hdeclares := forall₂_declaresEntry_iff.1 (declares_of_buildControls hbuilt)
  exact Traversal.exists_mem_of_forall₂ hdeclares hc

theorem exists_install_of_buildControls {entries : List (String × Control)}
    (h : buildControls r.resolver [] specs = .ok entries) :
    ∃ after, r.install specs = ⟨.ok after.entries, after⟩ := by
  rcases r.install_cases specs with ⟨e, hbuild, -⟩ | ⟨after, -, -, -, -, hinstall⟩
  · rw [h] at hbuild
    contradiction
  · exact ⟨after, hinstall⟩

/-- What it takes for an installation to be refused: it leaves the form. -/
theorem install_eq_error_iff {e : RuleError} :
    r.install specs = ⟨.error e, r⟩ ↔ buildControls r.resolver [] specs = .error e := by
  constructor
  · intro h
    rcases r.install_cases specs with ⟨e', hbuild, hinstall⟩ | ⟨after, -, -, -, -, hinstall⟩ <;>
      rw [hinstall] at h
    · obtain rfl := Except.error.inj (Registry.Reply.mk.inj h).1
      exact hbuild
    · simp at h
  · exact install_of_buildControls_error

/-- What it takes to install specifications, and what comes of it. -/
theorem install_eq_ok_iff :
    r.install specs = ⟨.ok after.entries, after⟩ ↔
      (specs.map RuleSpec.field).Nodup ∧
        List.Forall₂ (RuleSpec.Declares r.resolver) specs after.controls ∧
        after.generation = r.generation + 1 ∧ after.messages = r.messages ∧
        after.resolver = r.resolver := by
  constructor
  · intro h
    obtain ⟨hbuilt, hrest⟩ := install_eq_ok h
    obtain ⟨hnodup, -, hdeclares⟩ := buildControls_eq_ok_iff.1 hbuilt
    exact ⟨hnodup, forall₂_declaresEntry_iff.1 hdeclares, hrest⟩
  · rintro ⟨hnodup, hdeclares, hgeneration, hmessages, hresolver⟩
    have hbuilt : buildControls r.resolver [] specs = .ok after.entries :=
      buildControls_eq_ok_iff.2
        ⟨hnodup, fun _ _ => List.not_mem_nil, forall₂_declaresEntry_iff.2 hdeclares⟩
    obtain ⟨installed, hinstall⟩ := exists_install_of_buildControls hbuilt
    obtain ⟨hentries, hgeneration', hmessages', hresolver'⟩ := install_eq_ok hinstall
    -- The fields are determined by the specifications, and all else by the form before.
    have hsame : installed = after := by
      apply Registry.ext
      · rw [hresolver', hresolver]
      · rw [hmessages', hmessages]
      · rw [hbuilt, Except.ok.injEq] at hentries
        exact hentries.symm
      · rw [hgeneration', hgeneration]
    rw [hinstall, hsame]

/-- Specifications can be installed when no field is repeated and all rules
compile. -/
theorem exists_install_iff :
    (∃ after, r.install specs = ⟨.ok after.entries, after⟩) ↔
      (specs.map RuleSpec.field).Nodup ∧
        ∀ spec ∈ specs, ∃ chain, r.resolver.compile spec.rules = .ok chain := by
  constructor
  · rintro ⟨after, h⟩
    obtain ⟨hnodup, hdeclares, -⟩ := install_eq_ok_iff.1 h
    refine ⟨hnodup, ?_⟩
    intro spec hspec
    obtain ⟨c, -, hc⟩ := Traversal.exists_result_of_forall₂ hdeclares hspec
    exact ⟨c.validators, hc.chain⟩
  · rintro ⟨hnodup, hcompile⟩
    have hdeclared : ∀ spec ∈ specs, ∃ entry, RuleSpec.DeclaresEntry r.resolver spec entry := by
      intro spec hspec
      obtain ⟨chain, hchain⟩ := hcompile spec hspec
      exact ⟨(spec.field, _), rfl, RuleSpec.declares_new hchain⟩
    obtain ⟨built, hdeclares⟩ := Traversal.exists_forall₂ hdeclared
    exact exists_install_of_buildControls
      (buildControls_eq_ok_iff.2 ⟨hnodup, fun _ _ => List.not_mem_nil, hdeclares⟩)

end

/-- Installing is all or nothing.  Specifications without an offence become the
new fields of the form, in their order.  Otherwise the first offence decides the
error, a repetition before the rules, and the form stays as it was. -/
theorem install_all_or_nothing (r : Registry) (specs : List RuleSpec) :
    ((∀ i, ¬ RuleSpec.Offends r.resolver specs i) →
      ∃ after, r.install specs = ⟨.ok after.entries, after⟩ ∧
        r.step (.install specs) = (.installed after.entries, after) ∧
        List.Forall₂ (RuleSpec.Declares r.resolver) specs after.controls ∧
        after.generation = r.generation + 1 ∧ after.messages = r.messages ∧
        after.resolver = r.resolver) ∧
    ∀ i spec, specs[i]? = some spec → RuleSpec.Offends r.resolver specs i →
      (∀ j < i, ¬ RuleSpec.Offends r.resolver specs j) →
      ∃ e, r.install specs = ⟨.error e, r⟩ ∧ r.step (.install specs) = (.refused e, r) ∧
        (RuleSpec.Repeats specs i → e = .duplicateField spec.field) ∧
        (¬ RuleSpec.Repeats specs i →
          ∃ cause, r.resolver.compile spec.rules = .error cause ∧
            e = cause.forField spec.field ∧ e.forField cause.fieldName = cause ∧
            (r.resolver.factory.RefusesRules → e.fieldName = spec.field)) := by
  constructor
  · intro hclean
    obtain ⟨built, hbuilt⟩ :=
      buildControls_take_of_not_offends (le_refl specs.length) fun i _ => hclean i
    rw [List.take_length] at hbuilt
    obtain ⟨after, hinstall⟩ := exists_install_of_buildControls hbuilt
    obtain ⟨hentries, hgeneration, hmessages, hresolver⟩ := install_eq_ok hinstall
    have hdeclares := forall₂_declaresEntry_iff.1 (declares_of_buildControls hentries)
    refine ⟨after, hinstall, ?_, hdeclares, hgeneration, hmessages, hresolver⟩
    simp only [step, hinstall, Reply.conclude]
  · intro i spec hspec hoffends hfirst
    by_cases hrepeats : RuleSpec.Repeats specs i
    · -- A repetition wins over whatever is wrong with the rules.
      have hinstall := install_of_buildControls_error
        (buildControls_of_first_repeats hspec hrepeats hfirst)
      refine ⟨_, hinstall, ?_, fun _ => rfl, fun hnew => absurd hrepeats hnew⟩
      simp only [step, hinstall, Reply.conclude]
    · -- Without a repetition it is the rules that do not compile.
      obtain ⟨spec', cause, hspec', hcause⟩ := hoffends.resolve_left hrepeats
      obtain rfl : spec = spec' := Option.some.inj (hspec.symm.trans hspec')
      have hinstall := install_of_buildControls_error
        (buildControls_of_first_refused hspec hrepeats hcause hfirst)
      refine ⟨_, hinstall, ?_, fun h => absurd h hrepeats, fun _ => ⟨cause, hcause, rfl, ?_, ?_⟩⟩
      · simp only [step, hinstall, Reply.conclude]
      · exact cause.forField_fieldName spec.field
      · intro hfactory
        exact RuleError.fieldName_forField (Resolver.aboutRule_of_compile hfactory hcause) _

end Registry

end FormRules
