import FormRules.Rule.Standard

/-!
# A factory that counts bytes

A small factory that shows how a form can bring rules of its own: `required`,
a `minlength` that counts the bytes of a text and takes its argument without
blanks, and `even`.  It does not make its names known.
-/

namespace FormRules

namespace Factory

/-- A text that is not empty takes at least so many bytes; other values pass. -/
def hasMinBytes (n : Nat) : Value → Bool
  | .text s => s.isEmpty || decide (n ≤ s.utf8ByteSize)
  | _ => true

/-- A value that is a number is a whole even number; others pass. -/
def isEven (value : Value) : Bool :=
  value.number?.all Number.isEven

/-- The factory of the three rules.  A rule with an argument that it does not
take, or without one that it needs, is unknown. -/
def bytewise : Factory where
  create name argument :=
    match name, argument with
    | "required", none => .ok ⟨"required", .passes fun value => !value.isEmpty⟩
    | "minlength", some argument =>
        match Number.readNatural argument.toList with
        | .ok n => .ok ⟨"minlength", .passes (hasMinBytes n)⟩
        | .error fault => .error (.invalidArgument "" "minlength" argument fault.reason)
    | "even", none => .ok ⟨"even", .passes isEven⟩
    | name, _ => .error (.unknownRule "" name)
  names := []

end Factory

end FormRules
