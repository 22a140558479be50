import ClientGen.Decimal.Digits
import ClientGen.Schema.Reader
import ClientGen.Text.Lines

/-! # Checking values against schemas

All violations, in the order of the keywords, and for each keyword in the order of the
value. Numbers are compared by value, whole or not.
-/

namespace ClientGen

namespace Json

/-- A number as a fraction with a positive denominator. -/
def fraction? : Json → Option (Int × Nat)
  | .int i => some (i, 1)
  | .float x =>
    match Decimal.parts x with
    | .finite negative b =>
      let (num, den) := b.fraction
      some (if negative then -(num : Int) else num, den)
    | .zero _ => some (0, 1)
    | _ => none
  | _ => none

/-- Compare two values by a relation of numbers; values that are no numbers always relate. -/
def compareBy (relation : Int → Int → Bool) (a b : Json) : Bool :=
  match a.fraction?, b.fraction? with
  | some (m, d), some (n, e) => relation (m * e) (n * d)
  | _, _ => true

/-- Equality of values that are no lists and objects. -/
def sameLeaf (a b : Json) : Bool :=
  match a, b with
  | .null, .null => true
  | .bool a, .bool b => a == b
  | .str a, .str b => a == b
  | a, b => a.fraction?.isSome && b.fraction?.isSome && compareBy (· == ·) a b

mutual

/-- Equality of values, numbers by value. -/
def same : Json → Json → Bool
  | .arr as, .arr bs => sameItems as bs
  | .obj as, .obj bs => sameFields as bs
  | a, b => sameLeaf a b

def sameItems : List Json → List Json → Bool
  | [], [] => true
  | a :: as, b :: bs => same a b && sameItems as bs
  | _, _ => false

def sameFields : List (String × Json) → List (String × Json) → Bool
  | [], [] => true
  | (name, a) :: as, (other, b) :: bs => name == other && same a b && sameFields as bs
  | _, _ => false

end

/-- Whether a value occurs twice in a list. -/
def hasRepetition : List Json → Bool
  | [] => false
  | item :: rest => rest.any (same item) || hasRepetition rest

/-- Whether a number has no fractional part. -/
def isWhole (value : Json) : Bool :=
  match value.fraction? with
  | some (num, den) => num % den == 0
  | none => false

end Json

/-- Whether a value has a type. -/
def Primitive.has (value : Json) (type : Primitive) : Bool :=
  match type, value with
  | .array, .arr _ => true
  | .boolean, .bool _ => true
  | .integer, value => value.isWhole
  | .null, .null => true
  | .number, .int _ => true
  | .number, .float _ => true
  | .object, .obj _ => true
  | .string, .str _ => true
  | _, _ => false

def Bound.holds (bound : Bound) (value limit : Json) : Bool :=
  match bound with
  | .atLeast => value.compareBy (· ≥ ·) limit
  | .atMost => value.compareBy (· ≤ ·) limit
  | .above => value.compareBy (· > ·) limit
  | .below => value.compareBy (· < ·) limit

/-- The size of a value that has one. -/
def Measure.of? (measure : Measure) (value : Json) : Option Nat :=
  match measure, value with
  | .characters, .str s => some s.length
  | .items, .arr list => some list.length
  | .fields, .obj list => some list.length
  | _, _ => none

/-- The part of a number behind the point, with the number's sign. -/
def behindPoint (x : Float) : Float :=
  if x < 0.0 then x - x.ceil else x - x.floor

/-- Whether a number is a whole multiple of another one. A divisor with a fractional part divides
    what it leaves next to nothing of. -/
def isMultiple (value : Json) (divisor : Float) : Bool :=
  match value.float? with
  | none => true
  | some x =>
    match (Json.float x).fraction?, (Json.float divisor).fraction? with
    | some (m, d), some (n, e) =>
      let isExact := n != 0 && (m * e) % (n * d) == 0
      if e = 1 || (x / divisor).isInf then isExact
      else behindPoint (x / divisor) < 2.220446049250313e-16
    | _, _ => true

namespace Schema

/-- A name as a part of a path. -/
def segment (name : String) : String :=
  "/" ++ String.ofList (name.toList.flatMap fun c =>
    if c = '~' then ['~', '0'] else if c = '/' then ['~', '1'] else [c])

/-- Where a value is, and how to follow the references in its schema. -/
structure Place where
  path : String
  follow : String → String → Json → List Violation

namespace Place

/-- The place of a field or an item. -/
def below (place : Place) (name : String) : Place :=
  { place with path := place.path ++ segment name }

/-- A violation, unless a demand is met. -/
def demand (place : Place) (met : Bool) (mismatch : Mismatch) : List Violation :=
  if met then [] else [⟨place.path, mismatch⟩]

end Place

/-- Whether a property is named, or its name matches. -/
def isDeclared (named : List (String × Schema)) (patterns : List (Text.Pattern × Schema))
    (name : String) : Bool :=
  (named.lookup name).isSome || patterns.any fun (pattern, _) => pattern.occursIn name

mutual

/-- The violations of a schema by a value. -/
def check (place : Place) (value : Json) : Schema → List Violation
  | .always => []
  | .never => [⟨place.path, .nothingAllowed value⟩]
  | .keywords list => checkKeywords place value list

def checkKeywords (place : Place) (value : Json) : List Keyword → List Violation
  | [] => []
  | keyword :: rest => checkKeyword place value keyword ++ checkKeywords place value rest

def checkKeyword (place : Place) (value : Json) : Keyword → List Violation
  | .types types => place.demand (types.any (·.has value)) (.wrongType value types)
  | .options values => place.demand (values.any value.same) (.noOption value values)
  | .constant constant => place.demand (value.same constant) (.notConstant constant)
  | .bound bound limit => place.demand (bound.holds value limit) (.outOfBound value bound limit)
  | .multiple divisor => place.demand (isMultiple value divisor) (.noMultiple value divisor)
  | .size measure most limit =>
    place.demand ((measure.of? value).all fun n => if most then n ≤ limit else limit ≤ n)
      (.wrongSize value measure most limit)
  | .unique =>
    match value with
    | .arr items => place.demand (!Json.hasRepetition items) (.repeated value)
    | _ => []
  | .required names =>
    match value with
    | .obj fields =>
      names.flatMap fun name => place.demand (fields.lookup name).isSome (.missing name)
    | _ => []
  | .matching source pattern =>
    match value with
    | .str s => place.demand (pattern.occursIn s) (.noMatch value source)
    | _ => []
  | .properties named => checkNamed place value named
  | .patterned patterns =>
    match value with
    | .obj fields => checkPatterned place fields patterns
    | _ => []
  | .closed none [] .never =>
    match value with
    | .obj ((_, field) :: _) => [⟨place.path, .nothingAllowed field⟩]
    | _ => []
  | .closed named patterns rest =>
    match value with
    | .obj fields =>
      let isOther := fun name => !isDeclared (named.getD []) patterns name
      let others := (fields.map (·.1)).filter isOther
      (fields.flatMap fun (name, field) =>
        let inner := place.below name
        checkOwn inner name field named ++ checkMatching inner name field patterns
          ++ (if rest matches .never || !isOther name then [] else check inner field rest))
        ++ place.demand (!(rest matches .never) || others.isEmpty) (.unexpected others)
    | _ => []
  | .names schema =>
    match value with
    | .obj fields => fields.flatMap fun (name, _) => check place (.str name) schema
    | _ => []
  | .dependent entries => checkDependent place value entries
  | .leading schemas =>
    match value with
    | .arr items => checkLeading place 0 items schemas
    | _ => []
  | .items skip schema =>
    match value with
    | .arr items =>
      (items.zipIdx.drop skip).flatMap fun (item, index) =>
        check (place.below (toString index)) item schema
    | _ => []
  | .surplus skip schema =>
    match value with
    | .arr items =>
      if schema matches .never then
        place.demand (items.length ≤ skip) (.surplusItems (items.drop skip))
      else
        (items.zipIdx.drop skip).flatMap fun (item, index) =>
          check (place.below (toString index)) item schema
    | _ => []
  | .contains schema =>
    match value with
    | .arr items =>
      place.demand (items.any fun item => (check place item schema).isEmpty)
        (.noneContained value)
    | _ => []
  | .all schemas => (checkEach place value schemas).flatten
  | .any schemas =>
    place.demand ((checkEach place value schemas).any List.isEmpty) (.noneOfAny value)
  | .one schemas =>
    let met := ((checkEach place value schemas).filter List.isEmpty).length
    if met = 0 then [⟨place.path, .noneOfOne value⟩]
    else place.demand (met = 1) (.severalOfOne value)
  | .refuse source schema =>
    place.demand (!(check place value schema).isEmpty) (.refused source value)
  | .branch test yes no =>
    if (check place value test).isEmpty then check place value yes else check place value no
  | .reference pointer => place.follow pointer place.path value

/-- The violations of each of several schemas. -/
def checkEach (place : Place) (value : Json) : List Schema → List (List Violation)
  | [] => []
  | schema :: rest => check place value schema :: checkEach place value rest

/-- The violations of schemas by the first items of a list. -/
def checkLeading (place : Place) (index : Nat) (items : List Json) :
    List Schema → List Violation
  | [] => []
  | schema :: rest =>
    match items with
    | [] => []
    | item :: items =>
      check (place.below (toString index)) item schema
        ++ checkLeading place (index + 1) items rest

/-- The violations of named properties, in the order of the schema. -/
def checkNamed (place : Place) (value : Json) : List (String × Schema) → List Violation
  | [] => []
  | (name, schema) :: rest =>
    (match value.field? name with
      | some field => check (place.below name) field schema
      | none => []) ++ checkNamed place value rest

/-- The violations of schemas by the fields of an object whose names match, pattern by pattern. -/
def checkPatterned (place : Place) (fields : List (String × Json)) :
    List (Text.Pattern × Schema) → List Violation
  | [] => []
  | (pattern, schema) :: rest =>
    ((fields.filter fun (name, _) => pattern.occursIn name).flatMap fun (name, field) =>
        check (place.below name) field schema)
      ++ checkPatterned place fields rest

/-- The violations of the schema that a property has by its name. -/
def checkProperty (place : Place) (name : String) (value : Json) :
    List (String × Schema) → List Violation
  | [] => []
  | (other, schema) :: rest =>
    if name = other then check place value schema else checkProperty place name value rest

def checkOwn (place : Place) (name : String) (value : Json) :
    Option (List (String × Schema)) → List Violation
  | none => []
  | some named => checkProperty place name value named

/-- The violations of the schemas of all patterns that the name of a property matches. -/
def checkMatching (place : Place) (name : String) (value : Json) :
    List (Text.Pattern × Schema) → List Violation
  | [] => []
  | (pattern, schema) :: rest =>
    (if pattern.occursIn name then check place value schema else [])
      ++ checkMatching place name value rest

/-- The violations of the schemas that go with the properties of an object. -/
def checkDependent (place : Place) (value : Json) : List (String × Schema) → List Violation
  | [] => []
  | (name, schema) :: rest =>
    (if (value.field? name).isSome then check place value schema else [])
      ++ checkDependent place value rest

end

/-- The part of a value that a pointer leads to: `#` and names behind slashes. -/
def target? (root : Json) (pointer : String) : Option Json :=
  match pointer.toList with
  | '#' :: names =>
    let names := ((Text.splitChars (· = '/') names).drop 1).map fun name =>
      Text.replace (Text.replace (String.ofList name) "~1" "/") "~0" "~"
    names.foldlM step root
  | _ => none
where
  step (value : Json) (name : String) : Option Json :=
    match value with
    | .obj fields => fields.lookup name
    | .arr items =>
      if !name.isEmpty && name.all Char.isDigit then
        items[name.toList.foldl (fun n c => 10 * n + (c.toNat - '0'.toNat)) 0]?
      else none
    | _ => none

end Schema

end ClientGen
