/-! # Described types

Record types and enumerations that a client's sources define, in the order in which they
are declared.
-/

namespace ClientGen

/-- A field of a record. -/
structure Field where
  name : String
  typeName : String
  optional : Bool := false
  list : Bool := false
  deriving Repr, DecidableEq, Inhabited

/-- A record type. -/
structure RecordType where
  name : String
  fields : List Field := []
  deriving Repr, DecidableEq, Inhabited

/-- The value of an enumeration member. A whole number is `unsigned` only above the signed
    range of 64 bits. -/
inductive Scalar where
  | integer (i : Int)
  | unsigned (n : Nat)
  | float (x : Float)
  | text (s : String)
  deriving Repr, Inhabited

/-- A member of an enumeration. -/
structure Member where
  name : String
  value : Scalar
  deriving Repr, Inhabited

/-- An enumeration. -/
structure EnumType where
  name : String
  values : List Member := []
  deriving Repr, Inhabited

/-- The types of a service, the root of what a types file is generated from. -/
structure Types where
  package : String
  types : List RecordType := []
  enums : List EnumType := []
  deriving Repr, Inhabited

def Types.isEmpty (types : Types) : Bool :=
  types.types.isEmpty && types.enums.isEmpty

end ClientGen
