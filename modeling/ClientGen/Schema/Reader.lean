import ClientGen.Schema.Basic

/-! # Reading schemas

From the JSON form of a schema to its demands, in the order of the keywords' names. What is
no keyword is a remark. Keywords that belong together make up one demand: those for named,
for matching and for other properties, those for the first and for other items, and those for
the two outcomes of a test.
-/

namespace ClientGen.Schema

def primitives : List Primitive :=
  [.array, .boolean, .integer, .null, .number, .object, .string]

/-- The strings of a list. -/
def strings : List Json → List String
  | [] => []
  | .str s :: rest => s :: strings rest
  | _ :: rest => strings rest

/-- The named types, in the order of their names. -/
def typesOf (value : Json) : List Primitive :=
  let names := match value with
    | .str name => [name]
    | .arr items => strings items
    | _ => []
  primitives.filter fun type => names.contains type.name

/-- A size, written as a whole number or as a floating-point number without a fraction. -/
def size? : Json → Option Nat
  | .int i => if 0 ≤ i then some i.toNat else none
  | .float x => if 0.0 ≤ x && x.floor == x then some x.toUInt64.toNat else none
  | _ => none

/-- What the value of a keyword is, and what it demands. -/
inductive Form where
  | plain (build : Json → Option Keyword)
  | schema (build : Json → Schema → Keyword)
  | schemas (build : List Schema → Keyword)
  /-- A list of schemas, or one schema. -/
  | either (many : List Schema → Keyword) (one : Schema → Keyword)
  | named (build : List (String × Schema) → Keyword)
  | matching (build : List (Text.Pattern × Schema) → Keyword)
  /-- A schema for each name, or a list of names that are required. -/
  | dependent (build : List (String × Schema) → Keyword)

namespace Form

def limit (bound : Bound) : Form :=
  .plain fun limit => some (.bound bound limit)

def size (measure : Measure) (most : Bool) : Form :=
  .plain fun limit => (size? limit).map (.size measure most)

def names : Form :=
  .plain fun value =>
    match value with
    | .arr names => some (.required (strings names))
    | _ => none

def options : Form :=
  .plain fun value =>
    match value with
    | .arr values => some (.options values)
    | _ => none

def pointer : Form :=
  .plain fun value =>
    match value with
    | .str pointer => some (.reference pointer)
    | _ => none

def divisor : Form :=
  .plain fun value => value.float?.map .multiple

def pattern : Form :=
  .plain fun value =>
    match value with
    | .str source => (Text.Pattern.parse? source).map (.matching source)
    | _ => none

def unique : Form :=
  .plain fun value =>
    match value with
    | .bool true => some .unique
    | _ => none

/-- The keywords by name. An outcome of a test is a test of its own until it is joined to the
    one that it belongs to. -/
def table : List (String × Form) := [
  ("$ref", pointer), ("additionalItems", .schema fun _ => .surplus 0),
  ("additionalProperties", .schema fun _ => .closed none []),
  ("allOf", .schemas .all), ("anyOf", .schemas .any),
  ("const", .plain fun value => some (.constant value)),
  ("contains", .schema fun _ => .contains), ("dependencies", .dependent .dependent),
  ("dependentRequired", .dependent .dependent), ("dependentSchemas", .dependent .dependent),
  ("else", .schema fun _ => .branch .always .always), ("enum", options), ("exclusiveMaximum", limit .below), ("exclusiveMinimum", limit .above),
  ("if", .schema fun _ test => .branch test .always .always),
  ("items", .either .leading (.items 0)), ("maxItems", size .items true),
  ("maxLength", size .characters true), ("maxProperties", size .fields true),
  ("maximum", limit .atMost), ("minItems", size .items false),
  ("minLength", size .characters false), ("minProperties", size .fields false),
  ("minimum", limit .atLeast), ("multipleOf", divisor), ("not", .schema .refuse),
  ("oneOf", .schemas .one), ("pattern", pattern), ("patternProperties", .matching .patterned),
  ("prefixItems", .schemas .leading),
  ("properties", .named .properties), ("propertyNames", .schema fun _ => .names),
  ("required", names), ("then", .schema fun _ yes => .branch .always yes .always),
  ("type", .plain fun value => some (.types (typesOf value))), ("uniqueItems", unique)]

end Form

/-- Which keywords count next to a reference: none in the older dialect. -/
inductive Dialect where
  | older | current
  deriving Repr, DecidableEq

/-- The named properties among some keywords. -/
def namedOf (keywords : List Keyword) : Option (List (String × Schema)) :=
  keywords.findSome? fun keyword =>
    match keyword with
    | .properties named => some named
    | _ => none

/-- The schemas of properties by pattern among some keywords. -/
def patternsOf (keywords : List Keyword) : List (Text.Pattern × Schema) :=
  (keywords.findSome? fun keyword =>
    match keyword with
    | .patterned patterns => some patterns
    | _ => none).getD []

def isLeading : Keyword → Bool
  | .leading _ => true
  | _ => false

/-- How many items have a schema of their own. -/
def leadingOf (keywords : List Keyword) : Nat :=
  (keywords.findSome? fun keyword =>
    match keyword with
    | .leading schemas => some schemas.length
    | _ => none).getD 0

/-- Whether a keyword demands something of all properties that are not named. -/
def isClosing : Keyword → Bool
  | .closed _ _ .always => false
  | .closed _ _ _ => true
  | _ => false

/-- Whether a keyword is part of another one, or demands nothing. -/
def isJoined (dialect : Dialect) (keywords : List Keyword) (name : String) (keyword : Keyword) :
    Bool :=
  match name with
  | "properties" | "patternProperties" => keywords.any isClosing
  | "additionalItems" => dialect = .current || !keywords.any isLeading
  | "additionalProperties" => !isClosing keyword
  | "then" | "else" => true
  | _ => false

/-- A keyword with what others add to it. -/
def joined (keywords : List Keyword) (fields : List (String × Keyword)) : Keyword → Keyword
  | .closed _ _ rest => .closed (namedOf keywords) (patternsOf keywords) rest
  | .items _ schema => .items (leadingOf keywords) schema
  | .surplus _ schema => .surplus (leadingOf keywords) schema
  | .branch test yes no =>
    let yes := match fields.lookup "then" with
      | some (.branch _ schema _) => schema
      | _ => yes
    let no := match fields.lookup "else" with
      | some (.branch _ _ schema) => schema
      | _ => no
    .branch test yes no
  | keyword => keyword

def isReference : Keyword → Bool
  | .reference _ => true
  | _ => false

/-- The demands of keywords with their names. -/
def join (dialect : Dialect) (fields : List (String × Keyword)) : List Keyword :=
  let keywords := fields.map (·.2)
  if dialect = .older && keywords.any isReference then keywords.filter isReference
  else
    (fields.filter fun (name, keyword) => !isJoined dialect keywords name keyword).map
      fun (_, keyword) => joined keywords fields keyword

mutual

/-- The schema of a JSON value. -/
def ofJson (dialect : Dialect) : Json → Schema
  | .bool false => .never
  | .obj fields => .keywords (join dialect (readFields dialect fields))
  | _ => .always

/-- The keywords among some fields, each as what a value of its form stands for. -/
def readFields (dialect : Dialect) : List (String × Json) → List (String × Keyword)
  | [] => []
  | (name, value) :: rest =>
    let keyword := match Form.table.lookup name, value with
      | none, _ => none
      | some (.plain build), value => build value
      | some (.schema build), value => some (build value (ofJson dialect value))
      | some (.schemas build), .arr schemas => some (build (readSchemas dialect schemas))
      | some (.either many _), .arr schemas => some (many (readSchemas dialect schemas))
      | some (.either _ one), value => some (one (ofJson dialect value))
      | some (.named build), .obj fields => some (build (readNamed dialect fields))
      | some (.matching build), .obj fields => some (build (readMatching dialect fields))
      | some (.dependent build), .obj fields => some (build (readDependent dialect fields))
      | _, _ => none
    match keyword with
    | some keyword => (name, keyword) :: readFields dialect rest
    | none => readFields dialect rest

def readSchemas (dialect : Dialect) : List Json → List Schema
  | [] => []
  | schema :: rest => ofJson dialect schema :: readSchemas dialect rest

def readNamed (dialect : Dialect) : List (String × Json) → List (String × Schema)
  | [] => []
  | (name, schema) :: rest => (name, ofJson dialect schema) :: readNamed dialect rest

def readMatching (dialect : Dialect) : List (String × Json) → List (Text.Pattern × Schema)
  | [] => []
  | (source, schema) :: rest =>
    match Text.Pattern.parse? source with
    | some pattern => (pattern, ofJson dialect schema) :: readMatching dialect rest
    | none => readMatching dialect rest

def readDependent (dialect : Dialect) : List (String × Json) → List (String × Schema)
  | [] => []
  | (name, .arr names) :: rest =>
    (name, .keywords [.required (strings names)]) :: readDependent dialect rest
  | (name, schema) :: rest => (name, ofJson dialect schema) :: readDependent dialect rest

end

end ClientGen.Schema
