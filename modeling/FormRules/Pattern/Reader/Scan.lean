import FormRules.Pattern.Basic
import FormRules.Pattern.Machine
import FormRules.Text.Blank

/-!
# Flags, blanks and counts of written patterns

Reading a written pattern depends on its flags.  In extended mode blanks and
comments between the parts of a pattern do not count.
-/

namespace FormRules

/-- Why a text is no pattern that can be used. -/
inductive PatternFault where
  /-- The text does not follow the grammar of patterns. -/
  | malformed
  /-- The pattern is well formed and too large. -/
  | tooLarge
  deriving DecidableEq, Repr

/-- The reason given for a text that is no usable pattern. -/
def PatternFault.reason : PatternFault → String
  | .malformed => "regex parse error"
  | .tooLarge => "Compiled regex exceeds size limit of " ++ toString Machine.sizeLimit ++ " bytes."

namespace Pattern.Reader

/-- What has been read, and the rest of the text. -/
abbrev Read (α : Type) := α × List Char

/-- The refusal of a text that does not follow the grammar. -/
def malformed {α : Type} : Except PatternFault α :=
  .error .malformed

/-- How the rest of a pattern is to be understood. -/
structure Flags where
  /-- Letters match in both cases. -/
  ignoreCase : Bool
  /-- Anchors hold at the ends of lines too. -/
  multiLine : Bool
  /-- The dot matches line feeds too. -/
  dotAll : Bool
  /-- Classes and escapes are about all characters, not ASCII alone. -/
  unicode : Bool
  /-- Carriage returns end lines too. -/
  crlf : Bool
  /-- Blanks and comments do not count. -/
  extended : Bool
  /-- Repetitions are lazy unless they are marked. -/
  isLazy : Bool
  deriving DecidableEq, Repr

/-- The flags at the start of a pattern. -/
def Flags.initial : Flags := ⟨false, false, false, true, false, false, false⟩

/-- Set the flag of a letter. -/
def Flags.set? (f : Flags) (letter : Char) (on : Bool) : Option Flags :=
  match letter with
  | 'i' => some { f with ignoreCase := on }
  | 'm' => some { f with multiLine := on }
  | 's' => some { f with dotAll := on }
  | 'U' => some { f with isLazy := on }
  | 'u' => some { f with unicode := on }
  | 'R' => some { f with crlf := on }
  | 'x' => some { f with extended := on }
  | _ => none

/-- Drop blanks and comments; a comment goes from a number sign to the end of
its line. -/
def skipBlanks (inComment : Bool) : List Char → List Char
  | [] => []
  | c :: rest =>
      if inComment then
        skipBlanks (c != '\n') rest
      else if Text.isBlank c then
        skipBlanks false rest
      else if c = '#' then
        skipBlanks true rest
      else
        c :: rest

/-- Drop what does not count before the next part. -/
def skip (f : Flags) (cs : List Char) : List Char :=
  if f.extended then skipBlanks false cs else cs

/-- The digits of a number in a repetition, and the rest. -/
def scanDigits (f : Flags) : Nat → List Char → List Char × List Char
  | 0, cs => ([], cs)
  | fuel + 1, cs =>
      match cs with
      | c :: rest =>
          if c.isDigit then
            let (digits, rest) := scanDigits f fuel (skip f rest)
            (c :: digits, rest)
          else
            ([], cs)
      | [] => ([], [])

/-- Drop the blanks after a number in a repetition. -/
def dropBlanks (f : Flags) : Nat → List Char → List Char
  | 0, cs => cs
  | fuel + 1, cs =>
      match cs with
      | c :: rest => if Text.isBlank c then dropBlanks f fuel (skip f rest) else cs
      | [] => []

/-- The first number that is too large for a bound of a repetition. -/
def countLimit : Nat := 4294967296

/-- The number of times in a repetition; blanks around it do not count.  No
digits are no number; a number must fit thirty-two bits. -/
def readCount (f : Flags) (cs : List Char) : Except PatternFault (Read (Option Nat)) :=
  let cs := cs.dropWhile Text.isBlank
  let (digits, rest) := scanDigits f cs.length cs
  let rest := dropBlanks f rest.length rest
  if digits = [] then
    .ok (none, rest)
  else
    let n := digits.foldl (fun n c => 10 * n + (c.toNat - '0'.toNat)) 0
    if n < countLimit then .ok (some n, rest) else malformed

/-- How often a part is repeated. -/
structure Rounds where
  min : Nat
  /-- Without a bound, any number. -/
  max : Option Nat
  /-- As few rounds as possible are preferred; this does not change what a
  pattern matches. -/
  isLazy : Bool

/-- Read the question mark that reverses the preference of a repetition. -/
def readPreference (f : Flags) (min : Nat) (max : Option Nat) (cs : List Char) : Read Rounds :=
  match cs with
  | '?' :: rest => (⟨min, max, !f.isLazy⟩, rest)
  | cs => (⟨min, max, f.isLazy⟩, cs)

/-- A bound on a number of repetitions, after the opening brace: one number,
a number and a comma, or two numbers in order. -/
def readBounds (f : Flags) (cs : List Char) : Except PatternFault (Read Rounds) := do
  let cs := skip f cs
  if cs = [] then malformed
  let (least, cs) ← readCount f cs
  let (bounds, cs) ←
    match least, cs with
    | some least, ',' :: rest =>
        let rest := skip f rest
        if rest.head? = some '}' then
          pure ((least, none), rest)
        else do
          let (most, rest) ← readCount f rest
          match most with
          | some most => pure ((least, some most), rest)
          | none => malformed
    | some least, cs => pure ((least, some least), cs)
    | none, _ => malformed
  match cs with
  | '}' :: rest =>
      if bounds.2.all (bounds.1 ≤ ·) then
        .ok (readPreference f bounds.1 bounds.2 (skip f rest))
      else
        malformed
  | _ => malformed

/-- What stands between the question mark and the end of a group's flags. -/
structure FlagsRead where
  flags : Flags
  /-- Was any flag or sign written? -/
  any : Bool
  /-- A colon opens a group; a closing bracket ends the group at once. -/
  opens : Bool

/-- Read flags up to a colon or a closing bracket.  No letter and no minus sign
may come twice, and a minus sign needs a flag behind it. -/
def readFlags (f : Flags) (seen : List Char) (negated dangling : Bool) :
    List Char → Except PatternFault (Read FlagsRead)
  | [] => malformed
  | c :: rest =>
      if c = ':' ∨ c = ')' then
        if dangling then malformed else .ok (⟨f, seen ≠ [], c = ':'⟩, rest)
      else if c ∈ seen then
        malformed
      else if c = '-' then
        readFlags f (c :: seen) true true rest
      else
        match f.set? c !negated with
        | some f => readFlags f (c :: seen) negated false rest
        | none => malformed

end Pattern.Reader

end FormRules
