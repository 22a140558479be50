/-! # JSON values

A JSON value keeps whole numbers apart from floating-point ones. The fields of an object
are sorted by name, and each name occurs once.
-/

namespace ClientGen

/-- A JSON value. Whole numbers lie between `-2 ^ 63` and `2 ^ 64 - 1`. -/
inductive Json where
  | null
  | bool (b : Bool)
  | int (i : Int)
  | float (x : Float)
  | str (s : String)
  | arr (items : List Json)
  | obj (fields : List (String × Json))
  deriving Inhabited, BEq

namespace Json

/-- Put a field in its place; a field of the same name is replaced. -/
def insertField (name : String) (value : Json) : List (String × Json) → List (String × Json)
  | [] => [(name, value)]
  | (other, old) :: rest =>
    if name = other then (name, value) :: rest
    else if name < other then (name, value) :: (other, old) :: rest
    else (other, old) :: insertField name value rest

/-- The object with the given fields; of several fields with one name the last counts. -/
def object (fields : List (String × Json)) : Json :=
  .obj (fields.foldl (fun sorted field => insertField field.1 field.2 sorted) [])

/-- The value of a field, if this is an object that has it. -/
def field? (value : Json) (name : String) : Option Json :=
  match value with
  | .obj fields => fields.lookup name
  | _ => none

/-- A number as a floating-point one. -/
def float? : Json → Option Float
  | .int i => some (Float.ofInt i)
  | .float x => some x
  | _ => none

/-- Largest and smallest whole number that a value can hold. -/
def maxInt : Int := 0xFFFFFFFFFFFFFFFF

def minInt : Int := -0x8000000000000000

end Json

end ClientGen
