import ClientGen.Json.Printer

/-! # Decoding JSON values

Reading typed data out of a JSON value. A record is an object with named fields or a list
with one element a field. The first fault, in the order of the fields' names, is reported.
-/

namespace ClientGen.Json

/-- Why a value is not what was expected of it. -/
inductive DecodeError where
  | wrongType (found : String) (expected : String)
  | wrongValue (found : String) (expected : String)
  | wrongLength (length : Nat) (expected : String)
  | missingField (name : String)
  | unknownField (name : String) (known : List String)
  | duplicateField (name : String)
  | unknownVariant (name : String) (choices : List String)
  | noMatch (name : String)
  deriving Repr, DecidableEq

/-- The names a value can have, as a message lists them. -/
def choiceText : List String → String
  | [] => "there are no variants"
  | [a] => "expected `" ++ a ++ "`"
  | [a, b] => "expected `" ++ a ++ "` or `" ++ b ++ "`"
  | choices => "expected one of " ++ ", ".intercalate (choices.map fun c => "`" ++ c ++ "`")

def DecodeError.message : DecodeError → String
  | .wrongType found expected => "invalid type: " ++ found ++ ", expected " ++ expected
  | .wrongValue found expected => "invalid value: " ++ found ++ ", expected " ++ expected
  | .wrongLength length expected =>
    "invalid length " ++ toString length ++ ", expected " ++ expected
  | .missingField name => "missing field `" ++ name ++ "`"
  | .unknownField name known => "unknown field `" ++ name ++ "`, " ++ choiceText known
  | .duplicateField name => "duplicate field `" ++ name ++ "`"
  | .unknownVariant name choices => "unknown variant `" ++ name ++ "`, " ++ choiceText choices
  | .noMatch name => "data did not match any variant of untagged enum " ++ name

/-- A value as a message names it. -/
def describe : Json → String
  | .null => "null"
  | .bool b => "boolean `" ++ (if b then "true" else "false") ++ "`"
  | .int i => "integer `" ++ toString i ++ "`"
  | .float x => "floating point `" ++ Decimal.compactText x ++ "`"
  | .str s => "string " ++ Text.shown s
  | .arr _ => "sequence"
  | .obj _ => "map"

def wrongType (value : Json) (expected : String) : Except DecodeError α :=
  .error (.wrongType value.describe expected)

def decodeString : Json → Except DecodeError String
  | .str s => .ok s
  | value => value.wrongType "a string"

def decodeBool : Json → Except DecodeError Bool
  | .bool b => .ok b
  | value => value.wrongType "a boolean"

/-- Null stands for an absent value. -/
def decodeOption (decode : Json → Except DecodeError α) : Json → Except DecodeError (Option α)
  | .null => .ok none
  | value => (decode value).map some

def decodeItems (decode : Json → Except DecodeError α) : List Json → Except DecodeError (List α)
  | [] => .ok []
  | item :: rest => do
    let x ← decode item
    let xs ← decodeItems decode rest
    return x :: xs

def decodeList (decode : Json → Except DecodeError α) : Json → Except DecodeError (List α)
  | .arr items => decodeItems decode items
  | value => value.wrongType "a sequence"

/-- One of a few names, as a string or as an object with that name as its only key. -/
def decodeChoice (choices : List (String × α)) : Json → Except DecodeError α
  | .str s => choose s
  | .obj [(name, content)] => do
    let choice ← choose name
    match content with
    | .null => return choice
    | content => content.wrongType "unit"
  | .obj _ => .error (.wrongValue "map" "map with a single key")
  | value => value.wrongType "string or map"
where
  choose (name : String) : Except DecodeError α :=
    match choices.lookup name with
    | some choice => .ok choice
    | none => .error (.unknownVariant name (choices.map (·.1)))

/-- A field of an object, if it is there. -/
def fieldOf (fields : List (String × Json)) (name : String)
    (decode : Json → Except DecodeError α) : Except DecodeError (Option α) :=
  match fields.lookup name with
  | some value => (decode value).map some
  | none => .ok none

/-- A field that has to be there, once all fields have been decoded. -/
def required (name : String) : Option α → Except DecodeError α
  | some x => .ok x
  | none => .error (.missingField name)

/-- An element of a list that stands for a record. -/
def itemOf (items : List Json) (index : Nat) (expected : String)
    (decode : Json → Except DecodeError α) : Except DecodeError α :=
  match items[index]? with
  | some item => decode item
  | none => .error (.wrongLength index expected)

/-- An element that may be left out at the end of the list. -/
def itemOr (items : List Json) (index : Nat) (default : α)
    (decode : Json → Except DecodeError α) : Except DecodeError α :=
  match items[index]? with
  | some item => decode item
  | none => .ok default

/-- A list that stands for a record has no further elements. -/
def noMoreItems (items : List Json) (size : Nat) : Except DecodeError Unit :=
  if size < items.length then
    .error (.wrongLength items.length "fewer elements in array")
  else .ok ()

/-- A record from its fields or from the list of its elements. -/
def decodeRecord (name : String) (ofFields : List (String × Json) → Except DecodeError α)
    (ofItems : List Json → Except DecodeError α) : Json → Except DecodeError α
  | .obj fields => ofFields fields
  | .arr items => ofItems items
  | value => value.wrongType ("struct " ++ name)

end ClientGen.Json
