import FormRules.Rule.Custom
import FormRules.Rule.Standard
import FormRules.Rule.Token

/-!
# Compiling rule strings

A resolver finds the validator of a token: the custom rules come first, then
the rules of its factory.  Compiling a rule string reads all of it before the
first rule is resolved, so a piece that is no rule wins over a rule that is
unknown.
-/

namespace FormRules

/-- A way to find validators. -/
structure Resolver where
  factory : Factory

namespace Resolver

/-- The resolver of the standard rules. -/
def standard : Resolver := ⟨.standard⟩

/-- The validator of a token. -/
def resolve (r : Resolver) (t : Token) : Except RuleError Validator :=
  match CustomRule.ofName? t.name with
  | some rule => rule.build t.argument
  | none => r.factory.create t.name t.argument

/-- The chain of validators of a rule string, in its order. -/
def compile (r : Resolver) (rules : Option String) : Except RuleError (List Validator) := do
  (← Token.parseAll rules).mapM r.resolve

/-- The text by which a resolver is known: the names of its factory. -/
def label (r : Resolver) : String :=
  "RuleResolver \x7b builtins: [" ++
    ", ".intercalate (r.factory.names.map fun name => "\"" ++ name ++ "\"") ++ "] \x7d"

end Resolver

end FormRules
