import ClientGen.Template.Error
import ClientGen.Template.Value

/-! # Arguments

What functions, filters and tests are called with, and how they take it: values in order,
then values by name.
-/

namespace ClientGen.Template

/-- The arguments of a call. -/
structure Passed where
  values : List Value := []
  named : List (String × Value) := []

namespace Passed

def ofValues (values : List Value) : Passed :=
  ⟨values, []⟩

/-- A value passed where a text is wanted. -/
def toText (value : Value) : Except Error String :=
  match value with
  | .undefined _ => .error .undefinedValue
  | value => .ok value.argumentText

def toBool (value : Value) : Except Error Bool :=
  match value with
  | .bool b => .ok b
  | .undefined _ => .error .undefinedValue
  | value => .error (.invalid ("cannot convert " ++ value.kind ++ " to bool"))

/-- A whole number; `type` is the name that a message gives to the numbers that are wanted. -/
def toInt (type : String) (value : Value) : Except Error Int :=
  match value.int? with
  | some i => .ok i
  | none =>
    if value.isUndefined then .error .undefinedValue
    else .error (.invalid ("cannot convert " ++ value.kind ++ " to " ++ type))

/-- Take the next value. -/
def take (passed : Passed) : Except Error (Value × Passed) :=
  match passed.values with
  | value :: rest => .ok (value, { passed with values := rest })
  | [] => .error { kind := .missingArgument }

/-- Take the value of a parameter that may be left out: the next one, or the one that is
    passed by name. An absent value counts as left out. -/
def take? (passed : Passed) (name : String) : Option Value × Passed :=
  let (found, passed) := match passed.values with
    | value :: rest => (some value, { passed with values := rest })
    | [] =>
      (passed.named.lookup name,
        { passed with named := passed.named.filter fun (other, _) => other != name })
  match found with
  | some .none | some (.undefined _) => (none, passed)
  | found => (found, passed)

def text (passed : Passed) : Except Error (String × Passed) := do
  let (value, passed) ← passed.take
  return (← toText value, passed)

def text? (passed : Passed) (name : String) : Except Error (Option String × Passed) := do
  let (value, passed) := passed.take? name
  match value with
  | some value => return (some (← toText value), passed)
  | none => return (none, passed)

/-- A truth value that is false unless it is given. -/
def flag (passed : Passed) (name : String) : Except Error (Bool × Passed) := do
  let (value, passed) := passed.take? name
  match value with
  | some value => return (← toBool value, passed)
  | none => return (false, passed)

/-- There are no further arguments. -/
def done (passed : Passed) : Except Error Unit :=
  match passed.values, passed.named with
  | [], [] => .ok ()
  | [], (name, _) :: _ =>
    .error { kind := .tooManyArguments,
             detail := some ("unknown keyword argument '" ++ name ++ "'") }
  | _ :: _, _ => .error { kind := .tooManyArguments }

end Passed

end ClientGen.Template
