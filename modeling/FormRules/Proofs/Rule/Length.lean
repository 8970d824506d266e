import FormRules.Proofs.Number.Natural
import FormRules.Proofs.Rule.Argument
import FormRules.Proofs.Rule.Table

/-!
# Rules for lengths

The two rules for lengths take a count and look at texts alone, whose characters they
count.  The rule for the least length lets the empty text pass, so that an optional field
may stay empty.
-/

namespace FormRules

/-- A text that has some characters, but fewer than a number. -/
def Value.TooShort (n : Nat) (value : Value) : Prop :=
  ∃ s, value = .text s ∧ 0 < s.length ∧ s.length < n

/-- A text that has more characters than a number. -/
def Value.TooLong (n : Nat) (value : Value) : Prop :=
  ∃ s, value = .text s ∧ n < s.length

namespace StandardRule

variable {argument : String} {n : Nat} {value : Value}

theorem readCount_eq_ok_iff :
    readCount argument = .ok n ↔ Number.IsCount (Text.trim argument.toList) n := by
  rw [readCount, Traversal.mapError_eq_ok_iff, Number.readNatural_eq_ok_iff]

theorem readCount_eq_error_iff {reason : String} :
    readCount argument = .error reason ↔
      ∃ fault, Number.NoCount (Text.trim argument.toList) fault ∧ fault.reason = reason := by
  simp only [readCount, Traversal.mapError_eq_error_iff, Number.readNatural_eq_error_iff]

theorem hasMinLength_eq_true_iff : hasMinLength n value = true ↔ ¬ value.TooShort n := by
  cases value with
  | null | bool | number => simp [hasMinLength, Value.TooShort]
  | text s =>
      have hempty : s.isEmpty = true ↔ s.length = 0 := by
        rw [String.isEmpty_iff, String.length_eq_zero_iff]
      simp only [hasMinLength, Value.TooShort, Bool.or_eq_true, decide_eq_true_eq, hempty,
        Value.text.injEq, exists_eq_left']
      omega

theorem hasMaxLength_eq_true_iff : hasMaxLength n value = true ↔ ¬ value.TooLong n := by
  cases value with
  | null | bool | number => simp [hasMaxLength, Value.TooLong]
  | text s => simp [hasMaxLength, Value.TooLong]

theorem decides_minLength (n : Nat) :
    (minLength.testing (hasMinLength n)).Decides "minlength" fun value => ¬ value.TooShort n :=
  Validator.decides_of_test "minlength" fun _ => hasMinLength_eq_true_iff

theorem decides_maxLength (n : Nat) :
    (maxLength.testing (hasMaxLength n)).Decides "maxlength" fun value => ¬ value.TooLong n :=
  Validator.decides_of_test "maxlength" fun _ => hasMaxLength_eq_true_iff

end StandardRule

section

variable {a b name : String} {n m : Nat}

/-- Around a count there is nothing but blanks. -/
theorem Number.IsCount.notMem {c : Char} (h : Number.IsCount (Text.trim a.toList) n)
    (hblank : Text.isBlank c = false) (hdigit : c.isDigit = false) (hplus : c ≠ '+') :
    c ∉ a.toList := by
  obtain ⟨before, after, hsplit, hbefore, hafter⟩ := Text.exists_eq_append_trim a.toList
  intro hc
  rw [hsplit, List.mem_append, List.mem_append] at hc
  rcases hc with hc | hc | hc
  · exact absurd hc (Text.not_mem_of_allBlank hbefore hblank)
  · rcases h.mem hc with hc | hc
    · rw [hdigit] at hc
      contradiction
    · exact hplus hc
  · exact absurd hc (Text.not_mem_of_allBlank hafter hblank)

/-- A rule for lengths whose argument is a count can stand in a rule string. -/
theorem Number.IsCount.canonical (h : Number.IsCount (Text.trim a.toList) n)
    (hname : name ∈ Token.countNames) : Token.Canonical ⟨name, some a⟩ := by
  have hnames : ∀ name ∈ Token.countNames, name ≠ "" ∧ Text.trimText name = name ∧
      Token.separator ∉ name.toList ∧ '[' ∉ name.toList ∧ ']' ∉ name.toList := by decide
  obtain ⟨hne, htrim, hseparator, hopening, hclosing⟩ := hnames name hname
  have hbare : Token.Bare a.toList := ⟨h.notMem rfl rfl (by decide), h.notMem rfl rfl (by decide)⟩
  exact {
    named := hne
    trimmed := htrim
    separated := hseparator
    plain := by simp
    bracketed := by
      rintro argument hsome
      obtain rfl := Option.some.inj hsome
      exact ⟨⟨hopening, hclosing⟩, hbare, h.notMem rfl rfl (by decide)⟩ }

/-- The rule string of two rules for lengths. -/
theorem joined_lengths (a b : String) :
    Token.joined [⟨"minlength", some a⟩, ⟨"maxlength", some b⟩] =
      "minlength[" ++ a ++ "]|maxlength[" ++ b ++ "]" := by
  apply String.toList_injective
  rw [Token.toList_joined]
  simp [Token.toList_display_some, Token.separator]

end

namespace Factory

variable {name argument : String}

/-- Both rules for lengths read their argument as a count. -/
theorem exists_create_count (hname : name ∈ Token.countNames) :
    ∃ (rule : StandardRule) (test : Nat → Value → Bool), rule.name = name ∧
      ∀ argument, standard.create name (some argument) =
        rule.withArgument (some argument) StandardRule.readCount test := by
  simp only [Token.countNames, List.mem_cons, List.not_mem_nil, or_false] at hname
  rcases hname with rfl | rfl
  · exact ⟨.minLength, StandardRule.hasMinLength, rfl, fun _ => standard_create_name .minLength _⟩
  · exact ⟨.maxLength, StandardRule.hasMaxLength, rfl, fun _ => standard_create_name .maxLength _⟩

theorem exists_create_count_iff (hname : name ∈ Token.countNames) :
    (∃ v, standard.create name (some argument) = .ok v) ↔
      ∃ n, Number.IsCount (Text.trim argument.toList) n := by
  obtain ⟨rule, test, rfl, hcreate⟩ := exists_create_count hname
  simp only [hcreate, StandardRule.withArgument_some_eq_ok_iff, StandardRule.readCount_eq_ok_iff]
  constructor
  · rintro ⟨v, n, hn, -⟩
    exact ⟨n, hn⟩
  · rintro ⟨n, hn⟩
    exact ⟨_, n, hn, rfl⟩

theorem create_count_eq_error_iff (hname : name ∈ Token.countNames) {e : RuleError} :
    standard.create name (some argument) = .error e ↔
      ∃ fault, Number.NoCount (Text.trim argument.toList) fault ∧
        e = .invalidArgument "" name argument fault.reason := by
  obtain ⟨rule, test, rfl, hcreate⟩ := exists_create_count hname
  rw [hcreate, StandardRule.withArgument_some_eq_error_iff]
  simp only [StandardRule.readCount_eq_error_iff]
  constructor
  · rintro ⟨reason, ⟨fault, hfault, rfl⟩, rfl⟩
    exact ⟨fault, hfault, rfl⟩
  · rintro ⟨fault, hfault, rfl⟩
    exact ⟨_, ⟨fault, hfault, rfl⟩, rfl⟩

variable {n m : Nat}

theorem create_minLength (h : Number.IsCount (Text.trim argument.toList) n) :
    standard.create "minlength" (some argument) =
      .ok (StandardRule.minLength.testing (StandardRule.hasMinLength n)) :=
  (standard_create_name .minLength _).trans
    (StandardRule.withArgument_of_ok (StandardRule.readCount_eq_ok_iff.2 h))

theorem create_maxLength (h : Number.IsCount (Text.trim argument.toList) n) :
    standard.create "maxlength" (some argument) =
      .ok (StandardRule.maxLength.testing (StandardRule.hasMaxLength n)) :=
  (standard_create_name .maxLength _).trans
    (StandardRule.withArgument_of_ok (StandardRule.readCount_eq_ok_iff.2 h))

end Factory

/-- Two rules for lengths stand in a rule string with any two counts. -/
theorem Resolver.compile_lengths {a b : String} {n m : Nat}
    (hn : Number.IsCount (Text.trim a.toList) n) (hm : Number.IsCount (Text.trim b.toList) m) :
    standard.compile (some ("minlength[" ++ a ++ "]|maxlength[" ++ b ++ "]")) =
      .ok [StandardRule.minLength.testing (StandardRule.hasMinLength n),
        StandardRule.maxLength.testing (StandardRule.hasMaxLength m)] := by
  have hcanonical : ∀ t ∈ [Token.mk "minlength" (some a), Token.mk "maxlength" (some b)],
      t.Canonical := by
    rw [List.forall_mem_cons, List.forall_mem_singleton]
    exact ⟨hn.canonical (by decide), hm.canonical (by decide)⟩
  have hfirst : standard.resolve ⟨"minlength", some a⟩ = .ok _ := Factory.create_minLength hn
  have hsecond : standard.resolve ⟨"maxlength", some b⟩ = .ok _ := Factory.create_maxLength hm
  rw [← joined_lengths, standard.compile_joined hcanonical, Traversal.mapM_cons_ok hfirst,
    Traversal.mapM_cons_ok hsecond]
  rfl

/-- **Rules for lengths.**  Both rules take the arguments that are a count between blanks
and report all others as they were given, with the reason at the first character that
cannot be read.  The first rule fails the texts that have some characters but too few,
the second those that have too many, and nothing else.  In a chain they pass just the
texts whose length is between the two counts, and every value that is no text. -/
theorem lengths_between_counts :
    (∀ name ∈ Token.countNames, ∀ a : String,
      ((∃ v, Factory.standard.create name (some a) = .ok v) ↔
        ∃ n, Number.IsCount (Text.trim a.toList) n) ∧
      ∀ e, Factory.standard.create name (some a) = .error e ↔
        ∃ fault, Number.NoCount (Text.trim a.toList) fault ∧
          e = .invalidArgument "" name a fault.reason) ∧
    (∀ a n, Number.IsCount (Text.trim a.toList) n →
      (∃ v, Factory.standard.create "minlength" (some a) = .ok v ∧
        v.Decides "minlength" fun value => ¬ value.TooShort n) ∧
      ∃ v, Factory.standard.create "maxlength" (some a) = .ok v ∧
        v.Decides "maxlength" fun value => ¬ value.TooLong n) ∧
    ∀ a b n m, Number.IsCount (Text.trim a.toList) n → Number.IsCount (Text.trim b.toList) m →
      ∃ chain, Resolver.standard.compile
          (some ("minlength[" ++ a ++ "]|maxlength[" ++ b ++ "]")) = .ok chain ∧
        ∀ fields : Lookup,
          (∀ s : String, 1 ≤ s.length →
            ((runChain chain (.text s) fields).codes = [] ↔ n ≤ s.length ∧ s.length ≤ m)) ∧
          ∀ value : Value, (∀ s, value ≠ .text s) → (runChain chain value fields).codes = [] := by
  refine ⟨fun name hname a => ⟨Factory.exists_create_count_iff hname, fun e =>
    Factory.create_count_eq_error_iff hname⟩, fun a n hn => ?_, fun a b n m hn hm => ?_⟩
  · exact ⟨⟨_, Factory.create_minLength hn, StandardRule.decides_minLength n⟩,
      ⟨_, Factory.create_maxLength hn, StandardRule.decides_maxLength n⟩⟩
  · have hpair (value : Value) (fields : Lookup) :=
      codes_runChain_pair (StandardRule.decides_minLength n) (StandardRule.decides_maxLength m)
        value fields
    refine ⟨_, Resolver.compile_lengths hn hm, fun fields => ⟨?_, ?_⟩⟩
    · intro s hs
      rw [hpair]
      simp only [Value.TooShort, Value.TooLong, Value.text.injEq, exists_eq_left']
      omega
    · intro value hvalue
      rw [hpair]
      constructor
      · rintro ⟨s, rfl, -⟩
        exact hvalue s rfl
      · rintro ⟨s, rfl, -⟩
        exact hvalue s rfl

/-- A count may have a sign and zeros in front of it, and characters are counted, not
bytes. -/
theorem lengths_between_counts_of_text :
    ∃ chain, Resolver.standard.compile (some "minlength[ +3]|maxlength[03 ]") = .ok chain ∧
      ∀ fields, (runChain chain (.text "Zoë") fields).codes = [] := by
  have hleast : Number.IsCount (Text.trim " +3".toList) 3 := Number.readNatural_eq_ok_iff.1 rfl
  have hmost : Number.IsCount (Text.trim "03 ".toList) 3 := Number.readNatural_eq_ok_iff.1 rfl
  obtain ⟨chain, hchain, hpasses⟩ := lengths_between_counts.2.2 " +3" "03 " 3 3 hleast hmost
  refine ⟨chain, hchain, fun fields => ?_⟩
  exact ((hpasses fields).1 "Zoë" (by decide)).2 (by decide)

end FormRules
