import FormRules.Rule.Validator

/-!
# Controls

A control is a field of a form: its name, its chain of validators, and the
state that the user and the checks leave behind.
-/

namespace FormRules

/-- The state of a field. -/
structure FieldState where
  value : Value
  /-- Has the user left the field? -/
  touched : Bool
  /-- Has the value been written? -/
  dirty : Bool
  /-- The codes of the last check that was stored. -/
  failures : FailureSet

namespace FieldState

/-- The state of a field that nobody has seen yet. -/
def fresh : FieldState := ⟨.null, false, false, .empty⟩

instance : Inhabited FieldState := ⟨fresh⟩

/-- Did the last check fail? -/
def invalid (s : FieldState) : Bool := !s.failures.isEmpty

/-- The failures to show: those of a field that is invalid, touched and
dirty. -/
def surface (s : FieldState) : Option FailureSet :=
  if s.invalid && s.touched && s.dirty then some s.failures else none

/-- Write a value; the failures stay as they are. -/
def setValue (value : Value) (s : FieldState) : FieldState :=
  { s with value := value, dirty := true }

/-- The user leaves the field. -/
def markTouched (s : FieldState) : FieldState :=
  { s with touched := true }

/-- Store the codes of a check. -/
def setFailures (failures : FailureSet) (s : FieldState) : FieldState :=
  { s with failures := failures }

end FieldState

/-- A field of a form. -/
structure Control where
  name : String
  validators : List Validator
  state : FieldState

namespace Control

/-- A field as it is declared. -/
def new (name : String) (validators : List Validator) : Control :=
  ⟨name, validators, .fresh⟩

/-- The codes of the chain on the value of the field. -/
def runValidators (c : Control) (fields : Lookup) : FailureSet :=
  runChain c.validators c.state.value fields

/-- Change the state of a field. -/
def modify (f : FieldState → FieldState) (c : Control) : Control :=
  { c with state := f c.state }

@[simp] theorem name_modify (f : FieldState → FieldState) (c : Control) :
    (c.modify f).name = c.name := rfl

@[simp] theorem validators_modify (f : FieldState → FieldState) (c : Control) :
    (c.modify f).validators = c.validators := rfl

@[simp] theorem state_modify (f : FieldState → FieldState) (c : Control) :
    (c.modify f).state = f c.state := rfl

end Control

end FormRules
