import FormRules.Pattern.Matcher
import FormRules.Rule.Error
import FormRules.Rule.Validator

/-!
# Custom rules

The rules that every form knows: two shapes of texts, and agreement with
another field.
-/

namespace FormRules

/-- The rules that do not depend on the factory of a form. -/
inductive CustomRule where
  | validEmail
  | agreement
  | validFacebook
  deriving DecidableEq, Repr

namespace CustomRule

/-- The name of a rule in rule strings. -/
def name : CustomRule → String
  | validEmail => "valid_email"
  | agreement => "matches"
  | validFacebook => "valid_facebook"

/-- All rules, in the order in which names are compared. -/
def all : List CustomRule := [validEmail, agreement, validFacebook]

/-- The rule with a name. -/
def ofName? (name : String) : Option CustomRule :=
  all.find? fun rule => rule.name == name

end CustomRule

namespace Shape

open Pattern

/-- A run of word characters in which single dots and hyphens may stand between
two word characters. -/
def dottedWord : Pattern :=
  seq (many1 (one .asciiWord))
    (many (seq (optional (one (.ofString ".-"))) (many1 (one .asciiWord))))

/-- The shape of an e-mail address: a dotted word, an at sign, and a dotted
word that ends in labels of two or three characters. -/
def email : Pattern :=
  seqAll [
    look .textStart,
    dottedWord,
    one (.single '@'),
    dottedWord,
    many1 (seq (one (.single '.')) (iter (one .asciiWord) 2 (some 3))),
    look .textEnd]

/-- A fixed text in any case. -/
def anyCase (s : String) : Pattern :=
  seqAll (s.toList.map fun c => one (.caseFold (.single c)))

/-- The shape of an address of a page: the name of the host with or without
what comes before it, and a slash. -/
def facebook : Pattern :=
  seqAll [
    look .textStart,
    optional (seqAll [anyCase "http", optional (anyCase "s"), anyCase "://"]),
    optional (anyCase "www."),
    anyCase "facebook.com/"]

end Shape

namespace CustomRule

/-- An empty value passes, and so does one whose text has the shape. -/
def hasShape (shape : Pattern) (value : Value) : Bool :=
  value.isEmpty || shape.occurs value.render.toList

/-- Is the value empty or an e-mail address? -/
def isEmail : Value → Bool := hasShape Shape.email

/-- Is the value empty or the address of a page? -/
def isFacebook : Value → Bool := hasShape Shape.facebook

/-- The validator for agreement with another field.  The other field is looked
up when the check runs, so it may be declared later. -/
def agreesWith (other : String) : Validator :=
  ⟨agreement.name, .agreesWith other⟩

/-- The validator of a rule.  Agreement needs the name of a field, and the
other rules take no argument. -/
def build (rule : CustomRule) (argument : Option String) : Except RuleError Validator :=
  match rule, argument with
  | agreement, some field =>
      let field := Text.trimText field
      if field.isEmpty then .error (.missingArgument "" rule.name) else .ok (agreesWith field)
  | agreement, none => .error (.missingArgument "" rule.name)
  | _, some argument => .error (.unexpectedArgument "" rule.name argument)
  | validEmail, none => .ok ⟨rule.name, .passes isEmail⟩
  | validFacebook, none => .ok ⟨rule.name, .passes isFacebook⟩

end CustomRule

end FormRules
