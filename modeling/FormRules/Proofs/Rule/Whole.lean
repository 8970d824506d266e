import FormRules.Proofs.Pattern.Language
import FormRules.Proofs.Pattern.Matching
import FormRules.Proofs.Pattern.Reader.Parts
import FormRules.Proofs.Rule.Chain
import FormRules.Proofs.Rule.Verdict
import FormRules.Proofs.Traversal

/-!
# Patterns for whole texts

The rule for patterns puts what is written between two anchors.  If that is a
pattern by itself, the anchors hold for all of it: its alternatives stay together,
its flags end with it, and any of its matches may be the one that spans the text.
-/

namespace FormRules

open Pattern

section

variable {cs t : List Char} {p : Pattern} {part : Reader.Part}

theorem Pattern.readAny_eq_ok_iff : Pattern.readAny cs = .ok part ↔
    Reader.readPart cs = .ok part ∧ part.depth ≤ Reader.nestingLimit := by
  simp only [Pattern.readAny, bind, Except.bind]
  cases hpart : Reader.readPart cs with
  | error e => simp
  | ok p =>
      by_cases hdepth : Reader.nestingLimit < p.depth
      · simp only [hdepth, if_true, Except.ok.injEq, reduceCtorEq, false_iff, not_and, not_le]
        rintro rfl
        exact hdepth
      · simp only [hdepth, if_false, Except.ok.injEq]
        constructor
        · rintro rfl
          exact ⟨rfl, Nat.le_of_not_lt hdepth⟩
        · exact fun h => h.1

/-- What is read as a usable pattern is read as a pattern of any size. -/
theorem Pattern.readAny_of_read (h : Pattern.read cs = .ok p) :
    ∃ part, Pattern.readAny cs = .ok part ∧ part.pattern = p := by
  simp only [Pattern.read, bind, Except.bind] at h
  cases hpart : Pattern.readAny cs with
  | error e =>
      simp only [hpart] at h
      contradiction
  | ok part =>
      simp only [hpart] at h
      by_cases husable : part.layout.isUsable = true
      · exact ⟨part, rfl, by simpa [husable] using h⟩
      · simp [husable] at h

/-- A pattern between the anchors occurs in the texts that it spans by itself. -/
theorem Pattern.occurs_between_anchors (hpart : Reader.readPart cs = .ok part)
    (hp : Pattern.read ('^' :: '(' :: '?' :: ':' :: (cs ++ Reader.closing)) = .ok p) :
    p.occurs t = true ↔ part.pattern.Spans t 0 t.length := by
  obtain ⟨whole, hany, rfl⟩ := Pattern.readAny_of_read hp
  obtain ⟨hwhole, -⟩ := Pattern.readAny_eq_ok_iff.1 hany
  rw [Reader.readPart_anchored hpart hwhole, occurs_eq_true_iff]
  exact occurs_anchored_iff [part.pattern]

end

namespace StandardRule

theorem toList_anchored (s : String) :
    (anchored s).toList = '^' :: '(' :: '?' :: ':' :: (s.toList ++ Reader.closing) := by
  simp [anchored, Reader.closing]

/-- **Patterns are for whole texts.**  If what is written is a pattern by itself and
the rule accepts it, then the values that pass are the empty ones and those whose
text some match of the pattern spans from its first character to its last one. -/
theorem pattern_spans_whole {s : String} {part : Reader.Part} {v : Validator}
    (hpart : Reader.readPart s.toList = .ok part)
    (hv : Factory.standard.create "pattern" (some s) = .ok v) :
    v.Decides "pattern" fun value =>
      value.isEmpty = true ∨
        part.pattern.Spans value.render.toList 0 value.render.toList.length := by
  obtain ⟨p, hread, rfl⟩ := withArgument_some_eq_ok_iff.1 hv
  have hp : Pattern.read (anchored s).toList = .ok p := Traversal.mapError_eq_ok_iff.1 hread
  rw [toList_anchored] at hp
  refine Validator.decides_of_test pattern.name fun value => ?_
  rw [hasMatch, Bool.or_eq_true, occurs_between_anchors hpart hp]

/-- With anchors of lines in the pattern, a text passes that only the longer one of
two matches spans, and a text fails that has a match in its first line. -/
theorem pattern_spans_whole_lines :
    ∃ part v, Reader.readPart "(?m)^a|ab$".toList = .ok part ∧
      Factory.standard.create "pattern" (some "(?m)^a|ab$") = .ok v ∧
      ∀ fields, v.validate (.text "ab") fields = none ∧
        v.validate (.text "a\nb") fields = some "pattern" := by
  obtain ⟨part, hpart, hpattern⟩ : ∃ part, Reader.readPart "(?m)^a|ab$".toList = .ok part ∧
      part.pattern = .alt (seqAll [.empty, .look .lineStart, .one (.single 'a')])
        (seqAll [.one (.single 'a'), .one (.single 'b'), .look .lineEnd]) := ⟨_, rfl, rfl⟩
  have hok : (Factory.standard.create "pattern" (some "(?m)^a|ab$")).isOk = true := by
    decide +kernel
  cases hv : Factory.standard.create "pattern" (some "(?m)^a|ab$") with
  | error e =>
      rw [hv] at hok
      contradiction
  | ok v =>
      have hdecides := pattern_spans_whole hpart hv
      rw [hpattern] at hdecides
      refine ⟨part, v, hpart, rfl, fun fields => ⟨?_, ?_⟩⟩
      · refine (hdecides.passes_iff _ fields).2 (.inr ?_)
        exact .inr ⟨1, ⟨rfl, 'a', rfl, rfl⟩, 2, ⟨rfl, 'b', rfl, rfl⟩, rfl, rfl⟩
      · refine hdecides.fails ?_ fields
        rintro (hempty | hspans)
        · exact absurd hempty (by decide)
        · have hlen : (Value.text "a\nb").render.toList.length = 3 := by decide
          rw [hlen] at hspans
          rcases hspans with ⟨_, rfl, _, ⟨rfl, -⟩, hend, -⟩ | ⟨_, ⟨rfl, -⟩, _, ⟨rfl, -⟩, hend, -⟩
          · exact absurd hend (by decide)
          · exact absurd hend (by decide)

end StandardRule

end FormRules
