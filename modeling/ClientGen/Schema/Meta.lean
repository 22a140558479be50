import ClientGen.Schema.Check
import ClientGen.Text.Blank

/-! # Schemas of schemas

What a JSON value has to look like to be a schema, in the older and in the current dialect,
and what is reported of a value that does not.
-/

namespace ClientGen.Schema

namespace Meta

def typed (type : String) : Json :=
  .obj [("type", .str type)]

/-- The place of a whole schema. -/
def self : Json :=
  .obj [("$ref", .str "#")]

def definition (place name : String) : Json :=
  .obj [("$ref", .str ("#/" ++ place ++ "/" ++ name))]

/-- An object whose fields all satisfy one schema. -/
def mapOf (schema : Json) : Json :=
  .obj [("additionalProperties", schema), ("type", .str "object")]

def listOf (schema : Json) : Json :=
  .obj [("items", schema), ("type", .str "array")]

def schemaList : Json :=
  .obj [("items", self), ("minItems", .int 1), ("type", .str "array")]

def size : Json :=
  .obj [("minimum", .int 0), ("type", .str "integer")]

def positive : Json :=
  .obj [("exclusiveMinimum", .int 0), ("type", .str "number")]

def nameList : Json :=
  .obj [("items", typed "string"), ("type", .str "array"), ("uniqueItems", .bool true)]

def simpleTypes : Json :=
  .obj [("enum", .arr (["array", "boolean", "integer", "null", "number", "object",
    "string"].map Json.str))]

/-- One type, or a list of types without repetition. -/
def typeKeyword (simpleTypes : Json) : Json :=
  .obj [("anyOf", .arr [simpleTypes, .obj [
    ("items", simpleTypes), ("minItems", .int 1), ("type", .str "array"),
    ("uniqueItems", .bool true)]])]

def schemaTypes : Json :=
  .arr [.str "object", .str "boolean"]

/-- One part of the vocabulary of the current dialect. -/
def part (properties : List (String × Json)) : Json :=
  .obj [("properties", Json.object properties), ("type", schemaTypes)]

/-- The keywords whose values are texts, numbers, sizes or truth values in both dialects. -/
def assertions (simpleTypes : Json) : List (String × Json) := [
  ("const", .bool true), ("enum", listOf (.bool true)),
  ("exclusiveMaximum", typed "number"), ("exclusiveMinimum", typed "number"),
  ("maxItems", size), ("maxLength", size), ("maxProperties", size),
  ("maximum", typed "number"), ("minItems", size), ("minLength", size),
  ("minProperties", size), ("minimum", typed "number"), ("multipleOf", positive),
  ("pattern", typed "string"), ("required", nameList), ("type", typeKeyword simpleTypes),
  ("uniqueItems", typed "boolean")]

def remarks : List (String × Json) := [
  ("default", .bool true), ("description", typed "string"), ("examples", listOf (.bool true)),
  ("readOnly", typed "boolean"), ("title", typed "string"), ("writeOnly", typed "boolean")]

/-- Keywords whose values are schemas in both dialects. -/
def applications : List (String × Json) := [
  ("additionalProperties", self), ("allOf", schemaList), ("anyOf", schemaList),
  ("contains", self), ("else", self), ("if", self), ("not", self), ("oneOf", schemaList),
  ("patternProperties", mapOf self), ("properties", mapOf self), ("propertyNames", self),
  ("then", self)]

/-- Schemas of the current dialect. -/
def current : Json :=
  .obj [
    ("allOf", .arr [
      part ([
        ("$anchor", typed "string"), ("$comment", typed "string"), ("$defs", mapOf self),
        ("$dynamicAnchor", typed "string"), ("$dynamicRef", typed "string"),
        ("$id", typed "string"), ("$ref", typed "string"), ("$schema", typed "string"),
        ("$vocabulary", mapOf (typed "boolean"))]),
      part (applications ++ [
        ("dependentSchemas", mapOf self), ("items", self), ("prefixItems", schemaList)]),
      part [("unevaluatedItems", self), ("unevaluatedProperties", self)],
      part (assertions simpleTypes ++ [
        ("dependentRequired", mapOf nameList), ("maxContains", size), ("minContains", size)]),
      part (("deprecated", typed "boolean") :: remarks),
      part [("format", typed "string")],
      part [
        ("contentEncoding", typed "string"), ("contentMediaType", typed "string"),
        ("contentSchema", self)]]),
    ("properties", .obj [
      ("definitions", mapOf self),
      ("dependencies", mapOf (.obj [("anyOf", .arr [self, nameList])]))]),
    ("type", schemaTypes)]

/-- Schemas of the older dialect. -/
def older : Json :=
  .obj [
    ("properties", Json.object (applications ++ assertions simpleTypes ++ remarks ++ [
      ("$comment", typed "string"), ("$id", typed "string"), ("$ref", typed "string"),
      ("$schema", typed "string"), ("additionalItems", self),
      ("contentEncoding", typed "string"), ("contentMediaType", typed "string"),
      ("definitions", mapOf self),
      ("dependencies", mapOf (.obj [("anyOf", .arr [self, nameList])])),
      ("format", typed "string"),
      ("items", .obj [("anyOf", .arr [self, schemaList])])])),
    ("type", schemaTypes)]

end Meta

mutual

/-- The pointers that a JSON value refers to. -/
def referencesOf : Json → List String
  | .arr items => referencesOfItems items
  | .obj fields => referencesOfFields fields
  | _ => []

def referencesOfItems : List Json → List String
  | [] => []
  | item :: rest => referencesOf item ++ referencesOfItems rest

def referencesOfFields : List (String × Json) → List String
  | [] => []
  | (name, value) :: rest =>
    (match name, value with
      | "$ref", .str pointer => [pointer]
      | _, value => referencesOf value) ++ referencesOfFields rest

/-- How deeply a JSON value is nested. -/
def depthOf : Json → Nat
  | .arr items => depthOfItems items + 1
  | .obj fields => depthOfFields fields + 1
  | _ => 1

def depthOfItems : List Json → Nat
  | [] => 0
  | item :: rest => max (depthOf item) (depthOfItems rest)

def depthOfFields : List (String × Json) → Nat
  | [] => 0
  | (_, value) :: rest => max (depthOf value) (depthOfFields rest)

end

/-- The violations of the schema at a pointer, following at most `fuel` references. -/
def followed (dialect : Dialect) (root : Json) : Nat → String → String → Json → List Violation
  | 0, _, _, _ => []
  | fuel + 1, pointer, path, value =>
    match target? root pointer with
    | some schema => check ⟨path, followed dialect root fuel⟩ value (ofJson dialect schema)
    | none => []

/-- The violations of a schema by a value. Between two steps into the value no reference is
    followed twice, unless they go round in a circle. -/
def violations (dialect : Dialect) (schema value : Json) : List Violation :=
  let fuel := (depthOf value + 1) * ((referencesOf schema).length + 1)
  check ⟨"", followed dialect schema fuel⟩ value (ofJson dialect schema)

/-- Names of the older dialects. -/
def olderNames : List String := [
  "http://json-schema.org/draft-04/schema", "http://json-schema.org/draft-06/schema",
  "http://json-schema.org/draft-07/schema"]

/-- The dialect that a schema is written in. -/
def dialectOf (schema : Json) : Dialect :=
  match schema.field? "$schema" with
  | some (.str name) =>
    let name := String.ofList (Text.dropEndWhile (· = '#') name.toList)
    if olderNames.contains name then .older else .current
  | _ => .current

/-- Why a JSON value is no schema. -/
inductive Fault where
  | malformed (mismatch : Mismatch)
  /-- A text, or the schema of properties with such names, is no pattern. -/
  | noPattern (value : Json)
  | dangling (pointer : String)
  | noAnchor (name : String)
  | elsewhere (name : String)

/-- The full form of a name for a schema: the part before the first colon says how the schema can
    be found. -/
def fullName (name : String) : String × String :=
  let scheme := name.toList.takeWhile fun c => c.isAlphanum
  if (name.toList.drop scheme.length).head? = some ':' && !scheme.isEmpty then
    (String.ofList scheme, name)
  else ("json-schema", "json-schema:///" ++ name)

def Fault.message : Fault → String
  | .malformed mismatch => mismatch.message
  | .noPattern value => value.compact ++ " is not a \"regex\""
  | .dangling pointer => "Pointer '" ++ pointer ++ "' does not exist"
  | .noAnchor name => "Anchor '" ++ name ++ "' does not exist"
  | .elsewhere name =>
    let (scheme, name) := fullName name
    "Resource '" ++ name ++ "' is not present in a registry and retrieving it failed: Unknown "
      ++ "scheme " ++ scheme

/-- What is wrong with a reference. -/
def referenceFaults (root : Json) (reference : String) : List Fault :=
  if (target? root reference).isSome then []
  else
    match reference.toList with
    | '#' :: '/' :: names => [.dangling (String.ofList ('/' :: names))]
    | '#' :: name => [.noAnchor (String.ofList name)]
    | _ => [.elsewhere reference]

def patternFaults (source : String) (value : Json) : List Fault :=
  if (Text.Pattern.parse? source).isSome then [] else [.noPattern value]

mutual

/-- What is wrong with the references and patterns of a schema. -/
def faultsOf (root : Json) : Json → List Fault
  | .arr items => faultsOfItems root items
  | .obj fields => faultsOfFields root fields
  | _ => []

def faultsOfItems (root : Json) : List Json → List Fault
  | [] => []
  | item :: rest => faultsOf root item ++ faultsOfItems root rest

def faultsOfFields (root : Json) : List (String × Json) → List Fault
  | [] => []
  | (name, value) :: rest =>
    (match name, value with
      | "$ref", .str reference => referenceFaults root reference
      | "pattern", .str source => patternFaults source (.str source)
      | "patternProperties", .obj fields =>
        (fields.flatMap fun (source, schema) => patternFaults source schema)
          ++ faultsOfFields root fields
      | _, value => faultsOf root value) ++ faultsOfFields root rest

end

/-- The first fault of a schema. -/
def fault? (schema : Json) : Option Fault :=
  let dialect := dialectOf schema
  let form := match dialect with
    | .older => Meta.older
    | .current => Meta.current
  match violations dialect form schema with
  | violation :: _ => some (.malformed violation.mismatch)
  | [] => (faultsOf schema schema).head?

end ClientGen.Schema
