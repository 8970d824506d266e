import FormRules.Proofs.Pattern.Reader.Stray
import FormRules.Proofs.Rule.Whole

/-!
# Patterns that escape their anchors

The rule for patterns reads what is written only between its anchors.  A closing bracket
without an opening one is taken for the end of the group that the rule opens, and what
stands behind it is no longer held by both anchors.  All other texts that are no pattern
by themselves are refused.
-/

namespace FormRules

open Pattern

namespace Pattern

variable {cs : List Char} {part whole : Reader.Part}

/-- A pattern between the anchors is nested in the group and in the sequence around it. -/
theorem depth_anchored (hpart : Reader.readPart cs = .ok part)
    (hwhole : Reader.readPart ('^' :: '(' :: '?' :: ':' :: (cs ++ Reader.closing)) = .ok whole) :
    whole.depth = part.depth + 2 := by
  rw [Reader.readPart_anchored_eq hpart hwhole]
  simp [Reader.Part.sequence, Reader.Part.look, Reader.Part.group]

/-- What is read between the anchors is a pattern by itself, unless a bracket strays. -/
theorem exists_readAny_of_anchored {p : Pattern} (hstrays : ¬ Reader.Strays .initial cs)
    (hp : Pattern.read ('^' :: '(' :: '?' :: ':' :: (cs ++ Reader.closing)) = .ok p) :
    ∃ part, readAny cs = .ok part := by
  obtain ⟨whole, hany, -⟩ := Pattern.readAny_of_read hp
  obtain ⟨hwhole, hdepth⟩ := readAny_eq_ok_iff.1 hany
  obtain ⟨part, hpart⟩ := Reader.readPart_of_anchored hstrays hwhole
  rw [depth_anchored hpart hwhole] at hdepth
  exact ⟨part, readAny_eq_ok_iff.2 ⟨hpart, (Nat.le_add_right _ 2).trans hdepth⟩⟩

end Pattern

namespace StandardRule

theorem create_pattern_eq_ok_iff {s : String} {v : Validator} :
    Factory.standard.create "pattern" (some s) = .ok v ↔
      ∃ p, Pattern.read (anchored s).toList = .ok p ∧ v = pattern.testing (hasMatch p) := by
  refine withArgument_some_eq_ok_iff.trans (exists_congr fun p => and_congr_left fun _ => ?_)
  exact Traversal.mapError_eq_ok_iff

theorem create_pattern_of_error {s : String} {fault : PatternFault}
    (h : Pattern.read (anchored s).toList = .error fault) :
    Factory.standard.create "pattern" (some s) =
      .error (.invalidArgument "" "pattern" s fault.reason) := by
  have hread : readPattern s = .error fault.reason :=
    Traversal.mapError_eq_error_iff.2 ⟨fault, h, rfl⟩
  change pattern.withArgument (some s) readPattern hasMatch = _
  simp only [withArgument, hread]
  rfl

theorem decides_hasMatch (p : Pattern) : (pattern.testing (hasMatch p)).Decides "pattern"
    fun value => value.isEmpty = true ∨ p.occurs value.render.toList = true :=
  Validator.decides_of_test pattern.name fun value => by rw [hasMatch, Bool.or_eq_true]

/-- **Only stray brackets escape the anchors.**  As long as no closing bracket strays, the
rule refuses what is no pattern by itself, and each text that an accepted pattern passes is
empty or spanned by a match of that pattern.  A text with a stray bracket is no pattern,
even if the rule accepts it. -/
theorem only_stray_brackets_escape (s : String) :
    (¬ Reader.Strays .initial s.toList →
      ((∀ part, Pattern.readAny s.toList ≠ .ok part) → ∃ fault : PatternFault,
        Factory.standard.create "pattern" (some s) =
          .error (.invalidArgument "" "pattern" s fault.reason)) ∧
      ∀ v, Factory.standard.create "pattern" (some s) = .ok v →
        ∃ part, Pattern.readAny s.toList = .ok part ∧
          v.Decides "pattern" fun value => value.isEmpty = true ∨
            part.pattern.Spans value.render.toList 0 value.render.toList.length) ∧
    (Reader.Strays .initial s.toList → ∀ part, Pattern.readAny s.toList ≠ .ok part) := by
  refine ⟨fun hstrays => ⟨fun hmalformed => ?_, fun v hv => ?_⟩, ?_⟩
  · cases hp : Pattern.read (anchored s).toList with
    | error fault => exact ⟨fault, create_pattern_of_error hp⟩
    | ok p =>
        rw [toList_anchored] at hp
        obtain ⟨part, hpart⟩ := exists_readAny_of_anchored hstrays hp
        exact absurd hpart (hmalformed part)
  · obtain ⟨p, hp, rfl⟩ := create_pattern_eq_ok_iff.1 hv
    rw [toList_anchored] at hp
    obtain ⟨part, hpart⟩ := exists_readAny_of_anchored hstrays hp
    refine ⟨part, hpart, Validator.decides_of_test pattern.name fun value => ?_⟩
    rw [hasMatch, Bool.or_eq_true, occurs_between_anchors (readAny_eq_ok_iff.1 hpart).1 hp]
  · intro hstrays part hpart
    have hread := (readAny_eq_ok_iff.1 hpart).1
    rw [Reader.readPart, hstrays.run_eq] at hread
    contradiction

/-- Half of a choice on either side of a stray bracket: that is no pattern, yet the rule
accepts it, and each half is held by one anchor only. -/
theorem stray_bracket_accepted :
    (∀ part, Pattern.readAny "a)|(?:b".toList ≠ .ok part) ∧
    ∃ v, Factory.standard.create "pattern" (some "a)|(?:b") = .ok v ∧ ∀ fields,
      v.validate (.text "az") fields = none ∧ v.validate (.text "zb") fields = none ∧
        v.validate (.text "zz") fields = some "pattern" := by
  refine ⟨?_, ?_⟩
  · intro part hpart
    have hread : (Pattern.readAny "a)|(?:b".toList).isOk = false := by decide +kernel
    rw [hpart] at hread
    contradiction
  · have hmatches : (Pattern.read (anchored "a)|(?:b").toList).toOption.any (fun p =>
        p.occurs "az".toList && p.occurs "zb".toList && !p.occurs "zz".toList) = true := by
      decide +kernel
    cases hp : Pattern.read (anchored "a)|(?:b").toList with
    | error fault =>
        rw [hp] at hmatches
        contradiction
    | ok p =>
        rw [hp] at hmatches
        simp only [Except.toOption, Option.any_some, Bool.and_eq_true,
          Bool.not_eq_true'] at hmatches
        obtain ⟨⟨haz, hzb⟩, hzz⟩ := hmatches
        have hdecides := decides_hasMatch p
        refine ⟨_, create_pattern_eq_ok_iff.2 ⟨p, hp, rfl⟩, fun fields => ⟨?_, ?_, ?_⟩⟩
        · exact (hdecides.passes_iff _ fields).2 (.inr haz)
        · exact (hdecides.passes_iff _ fields).2 (.inr hzb)
        · refine hdecides.fails ?_ fields
          rintro (hempty | hoccurs)
          · exact absurd hempty (by decide)
          · exact Bool.false_ne_true (hzz.symm.trans hoccurs)

end StandardRule

end FormRules
