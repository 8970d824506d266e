import FormRules.Log.Settings
import FormRules.Proofs.Log.Level
import Mathlib.Data.List.Induction

/-!
# Choices of log settings

Log settings are the default ones with some choices made one after the other, each
of one setting, so of several choices of one setting the last counts.  An
environment makes a choice with each variable that is there and can be read.  These
choices are of different settings, so they can be made in any order.
-/

namespace FormRules

open Text (SameButCase)

namespace LogSettings

/-- A choice of one setting. -/
inductive Choice where
  | level (level : LogLevel)
  | format (format : LogFormat)
  | showTarget (on : Bool)
  | filter (filter : String)

namespace Choice

/-- The level that is chosen. -/
def level? : Choice → Option LogLevel
  | level choice => some choice
  | _ => none

/-- The format that is chosen. -/
def format? : Choice → Option LogFormat
  | format choice => some choice
  | _ => none

/-- Whether it is chosen to show targets. -/
def showTarget? : Choice → Option Bool
  | showTarget on => some on
  | _ => none

/-- The filter that is chosen. -/
def filter? : Choice → Option String
  | filter choice => some choice
  | _ => none

end Choice

/-- The settings after a choice. -/
def choose (s : LogSettings) : Choice → LogSettings
  | .level level => s.withLevel level
  | .format format => s.withFormat format
  | .showTarget on => s.withShowTarget on
  | .filter filter => s.withFilter filter

/-- The settings after some choices. -/
def chooseAll (s : LogSettings) (choices : List Choice) : LogSettings := choices.foldl choose s

/-- The choice of a setting that was made last. -/
def last? {α : Type} (setting? : Choice → Option α) (choices : List Choice) : Option α :=
  (choices.filterMap setting?).getLast?

/-- The variables of the environment ask for the choice. -/
def Overrides (env : String → Option String) : Choice → Prop
  | .filter filter => env "RUST_LOG" = some filter
  | .level level => ∃ s, env "LOG_LEVEL" = some s ∧ LogLevel.parse s = .ok level
  | .format format => ∃ s, env "LOG_FORMAT" = some s ∧ LogFormat.parse s = .ok format
  | .showTarget _ => False

section

variable {α : Type} {setting? : Choice → Option α} {choices : List Choice}

theorem last?_append (before after : List Choice) :
    last? setting? (before ++ after) = (last? setting? after).or (last? setting? before) := by
  rw [last?, List.filterMap_append, List.getLast?_append]
  rfl

/-- Where all choices of a setting are for one value, that one is the last. -/
theorem last?_eq (pick : α → Choice) {value : Option α}
    (hsetting : ∀ choice a, setting? choice = some a ↔ choice = pick a)
    (h : ∀ a, pick a ∈ choices ↔ value = some a) : last? setting? choices = value := by
  have hmem : ∀ a, a ∈ choices.filterMap setting? ↔ value = some a := by
    intro a
    simp only [List.mem_filterMap, hsetting, exists_eq_right, h]
  cases hlast : last? setting? choices with
  | some a => exact ((hmem a).1 (List.mem_of_getLast? hlast)).symm
  | none =>
      rw [last?, List.getLast?_eq_none_iff] at hlast
      cases hvalue : value with
      | none => rfl
      | some a =>
          have ha := (hmem a).2 hvalue
          rw [hlast] at ha
          contradiction

/-- Each setting has the value chosen last, or else the one before. -/
theorem chooseAll_eq (s : LogSettings) (choices : List Choice) :
    s.chooseAll choices =
      ⟨(last? Choice.level? choices).getD s.level, (last? Choice.format? choices).getD s.format,
        (last? Choice.showTarget? choices).getD s.showTarget,
        (last? Choice.filter? choices).or s.filter⟩ := by
  induction choices using List.reverseRecOn with
  | nil => rfl
  | append_singleton choices choice ih =>
      have hstep : s.chooseAll (choices ++ [choice]) = (s.chooseAll choices).choose choice := by
        rw [chooseAll, List.foldl_append]
        rfl
      rw [hstep, ih]
      cases choice <;> simp only [last?_append] <;> rfl

theorem toOption_eq_some_iff {x : Except String α} {a : α} : x.toOption = some a ↔ x = .ok a := by
  cases x <;> simp [Except.toOption]

end

section

variable {env : String → Option String}

theorem level_overrides_iff {level : LogLevel} :
    Overrides env (.level level) ↔
      ((env levelVariable).bind fun s => (LogLevel.parse s).toOption) = some level := by
  rw [Option.bind_eq_some_iff]
  simp only [toOption_eq_some_iff]
  rfl

theorem format_overrides_iff {format : LogFormat} :
    Overrides env (.format format) ↔
      ((env formatVariable).bind fun s => (LogFormat.parse s).toOption) = some format := by
  rw [Option.bind_eq_some_iff]
  simp only [toOption_eq_some_iff]
  rfl

theorem filter_overrides_iff {filter : String} :
    Overrides env (.filter filter) ↔ env filterVariable = some filter := Iff.rfl

theorem not_showTarget_overrides {on : Bool} : ¬ Overrides env (.showTarget on) := id

/-- The variables of an environment ask for finitely many choices. -/
theorem exists_forall_mem_iff_overrides (env : String → Option String) :
    ∃ made : List Choice, ∀ choice, choice ∈ made ↔ Overrides env choice := by
  refine ⟨((env filterVariable).map Choice.filter).toList ++
    (((env levelVariable).bind fun s => (LogLevel.parse s).toOption).map Choice.level).toList ++
    (((env formatVariable).bind fun s => (LogFormat.parse s).toOption).map Choice.format).toList, ?_⟩
  intro choice
  cases choice <;>
    simp only [List.mem_append, Option.mem_toList, Option.map_eq_some_iff,
      Choice.level.injEq, Choice.format.injEq, Choice.filter.injEq, reduceCtorEq, and_false,
      exists_false, exists_eq_right, false_or, or_false, level_overrides_iff, format_overrides_iff,
      filter_overrides_iff, not_showTarget_overrides]

/-- The settings of an environment are the default ones with the choices that its
variables ask for, in any order. -/
theorem ofEnvironment_eq {made : List Choice}
    (h : ∀ choice, choice ∈ made ↔ Overrides env choice) :
    ofEnvironment env = default.chooseAll made := by
  have hlevel : last? Choice.level? made =
      (env levelVariable).bind fun s => (LogLevel.parse s).toOption := by
    refine last?_eq Choice.level (fun choice a => by cases choice <;> simp [Choice.level?]) ?_
    intro level
    rw [h, level_overrides_iff]
  have hformat : last? Choice.format? made =
      (env formatVariable).bind fun s => (LogFormat.parse s).toOption := by
    refine last?_eq Choice.format (fun choice a => by cases choice <;> simp [Choice.format?]) ?_
    intro format
    rw [h, format_overrides_iff]
  have hshowTarget : last? Choice.showTarget? made = none := by
    refine last?_eq Choice.showTarget
      (fun choice a => by cases choice <;> simp [Choice.showTarget?]) ?_
    intro on
    rw [h]
    exact iff_of_false not_showTarget_overrides nofun
  have hfilter : last? Choice.filter? made = env filterVariable := by
    refine last?_eq Choice.filter (fun choice a => by cases choice <;> simp [Choice.filter?]) ?_
    intro filter
    rw [h, filter_overrides_iff]
  rw [chooseAll_eq, hlevel, hformat, hshowTarget, hfilter]
  exact congrArg _ (Option.or_none).symm

/-- **Settings as they are spelled.**  Levels and formats are read from their
spellings in whatever case of ASCII letters and from nothing else, their usual names
stand for themselves, and a refusal quotes the text as it is.  The variables of an
environment ask for finitely many choices.  The settings of the environment with any
choices made after it have each setting as it was chosen last, or else as it is by
default. -/
theorem settings_as_spelled :
    (∀ s, (∃ level, LogLevel.parse s = .ok level) ↔
      ∃ word ∈ ["trace", "debug", "info", "warn", "warning", "error"], SameButCase s word) ∧
    (∀ s, (∃ format, LogFormat.parse s = .ok format) ↔
      ∃ word ∈ ["compact", "full", "json", "pretty"], SameButCase s word) ∧
    (∀ s level, LogLevel.parse s = .ok level ↔
      SameButCase s level.name ∨ level = .warn ∧ SameButCase s "warning") ∧
    (∀ s format, LogFormat.parse s = .ok format ↔ SameButCase s format.name) ∧
    (∀ s e, LogLevel.parse s = .error e ↔
      (∀ level, LogLevel.parse s ≠ .ok level) ∧ e = "Invalid log level: " ++ s) ∧
    (∀ s e, LogFormat.parse s = .error e ↔
      (∀ format, LogFormat.parse s ≠ .ok format) ∧ e = "Invalid log format: " ++ s) ∧
    (∀ env : String → Option String,
      ∃ made : List Choice, ∀ choice, choice ∈ made ↔ Overrides env choice) ∧
    ∀ (env : String → Option String) (made choices : List Choice),
      (∀ choice, choice ∈ made ↔ Overrides env choice) →
        (ofEnvironment env).chooseAll choices =
          ⟨(last? Choice.level? (made ++ choices)).getD .info,
            (last? Choice.format? (made ++ choices)).getD .compact,
            (last? Choice.showTarget? (made ++ choices)).getD false,
            last? Choice.filter? (made ++ choices)⟩ := by
  refine ⟨fun s => exists_readSpelling_iff LogLevel.wellSpelled,
    fun s => exists_readSpelling_iff LogFormat.wellSpelled,
    fun s level => LogLevel.parse_eq_ok_iff, fun s format => LogFormat.parse_eq_ok_iff,
    fun s e => readSpelling_eq_error_iff, fun s e => readSpelling_eq_error_iff,
    exists_forall_mem_iff_overrides, ?_⟩
  intro env made choices h
  have hmade : (ofEnvironment env).chooseAll choices = default.chooseAll (made ++ choices) := by
    rw [ofEnvironment_eq h]
    exact List.foldl_append.symm
  rw [hmade, chooseAll_eq]
  exact congrArg _ Option.or_none

/-- A level in the long spelling and a filter count, a format that cannot be read
does not, and choices that follow replace what the environment says. -/
theorem settings_as_spelled_of_bad_format :
    let env : String → Option String := fun name =>
      if name = "RUST_LOG" then some "forms=trace"
      else if name = "LOG_LEVEL" then some "Warning"
      else if name = "LOG_FORMAT" then some "xml" else none
    (∀ choice, choice ∈ [Choice.filter "forms=trace", .level .warn] ↔ Overrides env choice) ∧
      (ofEnvironment env).chooseAll [.showTarget true, .filter "off"] =
        ⟨.warn, .compact, true, some "off"⟩ := by
  intro env
  have hlevel : LogLevel.parse "Warning" = .ok .warn := by decide +kernel
  have hformat : LogFormat.parse "xml" = .error "Invalid log format: xml" := by decide +kernel
  have hmade : ∀ choice,
      choice ∈ [Choice.filter "forms=trace", .level .warn] ↔ Overrides env choice := by
    intro choice
    cases choice with
    | filter filter => simp [Overrides, env, eq_comm]
    | level level => simp [Overrides, env, hlevel, eq_comm]
    | format format => simp [Overrides, env, hformat]
    | showTarget on => simp [Overrides]
  exact ⟨hmade, settings_as_spelled.2.2.2.2.2.2.2 env _ [.showTarget true, .filter "off"] hmade⟩

end

end LogSettings

end FormRules
