import FormRules.Pattern.Matcher
import FormRules.Pattern.Reader
import FormRules.Rule.Error
import FormRules.Rule.Validator

/-!
# Rule factories and the standard rules

A factory turns the name of a rule and its argument into a validator.  The
standard factory has rules for presence, for lengths, for bounds of numbers, for
e-mail addresses and for patterns.  Of them only the two rules for presence ever
fail an empty value.
-/

namespace FormRules

/-- A supplier of validators. -/
structure Factory where
  /-- The validator for a name and an argument, or why there is none. -/
  create : String → Option String → Except RuleError Validator
  /-- The names that the factory makes known. -/
  names : List String

/-- The standard rules. -/
inductive StandardRule where
  | required
  | requiredTrue
  | email
  | minLength
  | maxLength
  | min
  | max
  | pattern
  deriving DecidableEq, Repr

namespace StandardRule

/-- The name of a rule in rule strings. -/
def name : StandardRule → String
  | required => "required"
  | requiredTrue => "requiredtrue"
  | email => "email"
  | minLength => "minlength"
  | maxLength => "maxlength"
  | min => "min"
  | max => "max"
  | pattern => "pattern"

/-- All standard rules. -/
def all : List StandardRule :=
  [required, requiredTrue, email, minLength, maxLength, min, max, pattern]

/-- The rule with a name. -/
def ofName? (name : String) : Option StandardRule :=
  all.find? fun rule => rule.name == name

end StandardRule

namespace Shape

open Pattern

/-- The characters of the local part of an address. -/
def mailboxSet : CharSet :=
  .union .asciiAlphanumeric (.ofString ".!#$%&'*+/=?^_`\x7b|\x7d~-")

/-- A label of a host: letters, digits and hyphens, at most sixty-three of
them, with no hyphen at either end. -/
def hostLabel : Pattern :=
  seq (one .asciiAlphanumeric)
    (optional (seq (iter (one (.union .asciiAlphanumeric (.single '-'))) 0 (some 61))
      (one .asciiAlphanumeric)))

/-- The shape of an address in the standard rule: a local part, an at sign and
the labels of a host with dots between them. -/
def mailbox : Pattern :=
  seqAll [
    look .textStart,
    many1 (one mailboxSet),
    one (.single '@'),
    hostLabel,
    many (seq (one (.single '.')) hostLabel),
    look .textEnd]

end Shape

namespace StandardRule

/-- A text that is not empty has at least so many characters; other values
pass. -/
def hasMinLength (n : Nat) : Value → Bool
  | .text s => s.isEmpty || decide (n ≤ s.length)
  | _ => true

/-- A text has at most so many characters; other values pass. -/
def hasMaxLength (n : Nat) : Value → Bool
  | .text s => decide (s.length ≤ n)
  | _ => true

/-- A value that is a number is at least the bound; others pass. -/
def isAtLeast (bound : Float) (value : Value) : Bool :=
  value.isEmpty || value.number?.all fun x => decide (bound ≤ x)

/-- A value that is a number is at most the bound; others pass. -/
def isAtMost (bound : Float) (value : Value) : Bool :=
  value.isEmpty || value.number?.all fun x => decide (x ≤ bound)

/-- An empty value passes, and so does one in whose text the pattern occurs. -/
def hasMatch (p : Pattern) (value : Value) : Bool :=
  value.isEmpty || p.occurs value.render.toList

/-- A written pattern with anchors at both ends. -/
def anchored (pattern : String) : String :=
  "^(?:" ++ pattern ++ ")$"

/-- The validator of a test under the name of its rule. -/
def testing (rule : StandardRule) (test : Value → Bool) : Validator :=
  ⟨rule.name, .passes test⟩

/-- The validator of a rule that takes no argument. -/
def withoutArgument (rule : StandardRule) (argument : Option String) (test : Value → Bool) :
    Except RuleError Validator :=
  match argument with
  | some argument => .error (.unexpectedArgument "" rule.name argument)
  | none => .ok (rule.testing test)

/-- The validator of a rule that reads its argument.  Errors hold the argument
as it was given. -/
def withArgument {α : Type} (rule : StandardRule) (argument : Option String)
    (read : String → Except String α) (test : α → Value → Bool) : Except RuleError Validator :=
  match argument with
  | none => .error (.missingArgument "" rule.name)
  | some argument =>
      match read argument with
      | .ok a => .ok (rule.testing (test a))
      | .error reason => .error (.invalidArgument "" rule.name argument reason)

/-- Read a count between blanks. -/
def readCount (argument : String) : Except String Nat :=
  (Number.readNatural (Text.trim argument.toList)).mapError (·.reason)

/-- Read a number between blanks. -/
def readBound (argument : String) : Except String Float :=
  (Number.readFloat (Text.trim argument.toList)).mapError (·.reason)

/-- Read a pattern for whole texts. -/
def readPattern (argument : String) : Except String Pattern :=
  (Pattern.read (anchored argument).toList).mapError (·.reason)

/-- The validator of a rule. -/
def build (rule : StandardRule) (argument : Option String) : Except RuleError Validator :=
  match rule with
  | required => rule.withoutArgument argument fun value => !value.isEmpty
  | requiredTrue => rule.withoutArgument argument fun value => value.bool? == some true
  | email => rule.withoutArgument argument (hasMatch Shape.mailbox)
  | minLength => rule.withArgument argument readCount hasMinLength
  | maxLength => rule.withArgument argument readCount hasMaxLength
  | min => rule.withArgument argument readBound isAtLeast
  | max => rule.withArgument argument readBound isAtMost
  | pattern => rule.withArgument argument readPattern hasMatch

end StandardRule

/-- The factory of the standard rules. -/
def Factory.standard : Factory where
  create name argument :=
    match StandardRule.ofName? name with
    | some rule => rule.build argument
    | none => .error (.unknownRule "" name)
  names := StandardRule.all.map (·.name)

end FormRules
