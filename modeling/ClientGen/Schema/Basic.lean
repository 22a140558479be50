import ClientGen.Decimal.Printer
import ClientGen.Json.Printer
import ClientGen.Text.Pattern

/-! # Schemas

What a JSON value has to look like, and what is said of a value that does not.
-/

namespace ClientGen

/-- The types that JSON values have. A whole number is an integer and a number. -/
inductive Primitive where
  | array | boolean | integer | null | number | object | string
  deriving Repr, DecidableEq

def Primitive.name : Primitive → String
  | .array => "array"
  | .boolean => "boolean"
  | .integer => "integer"
  | .null => "null"
  | .number => "number"
  | .object => "object"
  | .string => "string"

/-- A bound of a number. -/
inductive Bound where
  | atLeast | atMost | above | below
  deriving Repr, DecidableEq

/-- What the size of a value counts: characters, items or fields. -/
inductive Measure where
  | characters | items | fields
  deriving Repr, DecidableEq

mutual

/-- A schema: all values, no value, or the values that satisfy all keywords. -/
inductive Schema where
  | always
  | never
  | keywords (list : List Keyword)

/-- One demand on a value. A demand on values of one type is met by those of any other. -/
inductive Keyword where
  | types (types : List Primitive)
  | options (values : List Json)
  | constant (value : Json)
  | bound (bound : Bound) (limit : Json)
  | multiple (divisor : Float)
  | size (measure : Measure) (most : Bool) (limit : Nat)
  | unique
  /-- A text that contains a match of a pattern; `source` is what messages show of it. -/
  | matching (source : String) (pattern : Text.Pattern)
  | required (names : List String)
  | properties (named : List (String × Schema))
  /-- Properties whose names contain a match of a pattern. -/
  | patterned (patterns : List (Text.Pattern × Schema))
  /-- Properties that are named, if any are, those whose names match, and all others. -/
  | closed (named : Option (List (String × Schema)))
      (patterns : List (Text.Pattern × Schema)) (rest : Schema)
  | names (schema : Schema)
  /-- Schemas of objects that have certain properties. -/
  | dependent (entries : List (String × Schema))
  /-- The first items, one schema each. -/
  | leading (schemas : List Schema)
  /-- All items but the first few. -/
  | items (skip : Nat) (schema : Schema)
  /-- All items but the first few, in the older dialect. -/
  | surplus (skip : Nat) (schema : Schema)
  | contains (schema : Schema)
  | all (schemas : List Schema)
  | any (schemas : List Schema)
  | one (schemas : List Schema)
  /-- The value does not satisfy a schema; `source` is what messages show of it. -/
  | refuse (source : Json) (schema : Schema)
  | branch (test yes no : Schema)
  /-- The schema at a pointer into the whole schema. -/
  | reference (pointer : String)

end

instance : Inhabited Schema := ⟨.always⟩

/-- What is wrong with a value. -/
inductive Mismatch where
  | wrongType (value : Json) (types : List Primitive)
  | noOption (value : Json) (options : List Json)
  | notConstant (constant : Json)
  | outOfBound (value : Json) (bound : Bound) (limit : Json)
  | noMultiple (value : Json) (divisor : Float)
  | noMatch (value : Json) (source : String)
  | wrongSize (value : Json) (measure : Measure) (most : Bool) (limit : Nat)
  | repeated (value : Json)
  | missing (name : String)
  | unexpected (names : List String)
  | surplusItems (items : List Json)
  | noneContained (value : Json)
  | noneOfAny (value : Json)
  | noneOfOne (value : Json)
  | severalOfOne (value : Json)
  | refused (source value : Json)
  | nothingAllowed (value : Json)

namespace Mismatch

def quoted (type : Primitive) : String :=
  "\"" ++ type.name ++ "\""

def boundText : Bound → String
  | .atLeast => " is less than the minimum of "
  | .atMost => " is greater than the maximum of "
  | .above => " is less than or equal to the minimum of "
  | .below => " is greater than or equal to the maximum of "

/-- A count of what a size measures. -/
def countText (measure : Measure) (n : Nat) : String :=
  toString n ++ match measure with
    | .characters => if n = 1 then " character" else " characters"
    | .items => if n = 1 then " item" else " items"
    | .fields => if n = 1 then " property" else " properties"

def sizeText (measure : Measure) (most : Bool) : String :=
  match measure, most with
  | .characters, false => " is shorter than "
  | .characters, true => " is longer than "
  | _, false => " has less than "
  | _, true => " has more than "

def message : Mismatch → String
  | .wrongType value [type] => value.compact ++ " is not of type " ++ quoted type
  | .wrongType value types =>
    value.compact ++ " is not of types " ++ ", ".intercalate (types.map quoted)
  | .noOption value options => value.compact ++ " is not one of " ++ (Json.arr options).compact
  | .notConstant constant => constant.compact ++ " was expected"
  | .outOfBound value bound limit => value.compact ++ boundText bound ++ limit.compact
  | .noMultiple value divisor =>
    value.compact ++ " is not a multiple of " ++ Decimal.bareText divisor
  | .noMatch value source => value.compact ++ " does not match \"" ++ source ++ "\""
  | .wrongSize value measure most limit =>
    value.compact ++ sizeText measure most ++ countText measure limit
  | .repeated value => value.compact ++ " has non-unique elements"
  | .missing name => (Json.str name).compact ++ " is a required property"
  | .unexpected names =>
    "Additional properties are not allowed ("
      ++ ", ".intercalate (names.map fun name => "'" ++ name ++ "'")
      ++ (if names.length = 1 then " was" else " were") ++ " unexpected)"
  | .surplusItems items =>
    "Additional items are not allowed (" ++ ", ".intercalate (items.map Json.compact)
      ++ (if items.length = 1 then " was" else " were") ++ " unexpected)"
  | .noneContained value => "None of " ++ value.compact ++ " are valid under the given schema"
  | .noneOfAny value =>
    value.compact ++ " is not valid under any of the schemas listed in the 'anyOf' keyword"
  | .noneOfOne value =>
    value.compact ++ " is not valid under any of the schemas listed in the 'oneOf' keyword"
  | .severalOfOne value =>
    value.compact ++ " is valid under more than one of the schemas listed in the 'oneOf' keyword"
  | .refused source value => source.compact ++ " is not allowed for " ++ value.compact
  | .nothingAllowed value => "False schema does not allow " ++ value.compact

end Mismatch

/-- A mismatch and where in the value it is: the names and positions that lead there, each
    behind a slash. -/
structure Violation where
  path : String
  mismatch : Mismatch

end ClientGen
