import FormRules.Rule.Error
import FormRules.Text.Blank

/-!
# Rule strings

A rule string is a list of rules separated by vertical bars, such as
`required|minlength[3]|matches[password]`.  Each piece is a name with an
optional argument in square brackets.  `Token.parse` reads one piece,
`Token.parseAll` a whole rule string, and `Token.display` writes a token back.
-/

namespace FormRules

/-- One rule of a rule string: a name and an optional argument. -/
structure Token where
  /-- The name of the rule. -/
  name : String
  /-- The text between the brackets, if there are brackets. -/
  argument : Option String
  deriving DecidableEq, Repr

/-- What can be wrong with a piece of a rule string. -/
inductive TokenFault where
  | emptyRule
  | repeatedBrackets
  | reversedBrackets
  | trailingText
  | missingName
  deriving DecidableEq, Repr

/-- The reason given for a malformed piece. -/
def TokenFault.reason : TokenFault → String
  | .emptyRule => "empty rule"
  | .repeatedBrackets => "nested or repeated brackets"
  | .reversedBrackets => "']' before '['"
  | .trailingText => "text after closing ']'"
  | .missingName => "missing rule name"

namespace Token

/-- The character between two rules. -/
def separator : Char := '|'

/-- Read a piece that has no blank at either end.  A piece that lacks one of
the two brackets is a plain name.  Otherwise there must be one bracket of each
kind, the closing one last, and a name before them. -/
def readTrimmed (piece : List Char) : Except TokenFault Token :=
  if piece = [] then
    .error .emptyRule
  else if '[' ∉ piece ∨ ']' ∉ piece then
    .ok ⟨String.ofList piece, none⟩
  else if 1 < piece.count '[' ∨ 1 < piece.count ']' then
    .error .repeatedBrackets
  else
    let before := piece.takeWhile (· != '[')
    let after := (piece.dropWhile (· != '[')).drop 1
    let inside := after.takeWhile (· != ']')
    if ']' ∈ before then
      .error .reversedBrackets
    else if after.dropWhile (· != ']') ≠ [']'] then
      .error .trailingText
    else if Text.trim before = [] then
      .error .missingName
    else
      .ok ⟨String.ofList (Text.trim before), some (String.ofList inside)⟩

/-- Read a trimmed piece, with the error that a rule string reports for it. -/
def readPiece (piece : List Char) : Except RuleError Token :=
  (readTrimmed piece).mapError fun fault =>
    .malformedRule "" (String.ofList piece) fault.reason

/-- Read one piece; blanks around it and around the name do not count. -/
def parsePiece (piece : List Char) : Except RuleError Token :=
  readPiece (Text.trim piece)

/-- Read one rule. -/
def parse (piece : String) : Except RuleError Token :=
  parsePiece piece.toList

/-- Read a rule string.  An absent or blank one has no rules; in any other,
the leftmost piece that is no rule is the error. -/
def parseAll : Option String → Except RuleError (List Token)
  | none => .ok []
  | some rules =>
      let rules := Text.trim rules.toList
      if rules = [] then .ok [] else (Text.cut separator rules).mapM parsePiece

/-- Write a token as it stands in a rule string. -/
def display (t : Token) : String :=
  match t.argument with
  | some argument => t.name ++ "[" ++ argument ++ "]"
  | none => t.name

end Token

end FormRules
