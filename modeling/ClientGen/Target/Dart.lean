import ClientGen.Target.Basic
import ClientGen.Target.Templates.Dart
import ClientGen.TypeMap

/-! # Dart

Names are in camel case, and those that are reserved get an underscore at the end.
-/

namespace ClientGen.Target.Dart

def language : String := "dart"

/-- Words that cannot be used as names. -/
def keywords : List String := [
  "assert", "break", "case", "catch", "class", "const", "continue", "default", "do", "else",
  "enum", "extends", "false", "final", "finally", "for", "if", "in", "is", "new", "null",
  "rethrow", "return", "super", "switch", "this", "throw", "true", "try", "var", "void",
  "while", "with", "await", "yield"]

def typeName (source : String) : String :=
  TypeMap.target source language

/-- The name of a method, a field or an enumeration member. -/
def identifier (name : String) : String :=
  let name := Naming.lowerCamel name
  if keywords.contains name then name ++ "_" else name

/-- The name of a parameter, which is not that of the local variable of every method. -/
def paramName (name : String) : String :=
  let name := identifier name
  if name = "params" then "params_" else name

def fieldType (source : String) (optional list : Bool) : String :=
  let base := typeName source
  let type := if list then "List<" ++ base ++ ">" else base
  if optional then type ++ "?" else type

/-- What the templates can use. -/
def helpers : Template.Environment :=
  ((((((Template.Environment.standard.bindHelper "dartType" typeName).bindHelper
    "dartClassName" Naming.upperCamel).bindHelper
    "dartMethodName" identifier).bindHelper
    "dartIdent" identifier).bindHelper
    "dartParamName" paramName).bindFieldHelper
    "dartFieldType" fieldType).bindLiteral .dart

/-- The target for a package. -/
def target (sdk : Sdk) : Except GenerationError Target := do
  checkSdk sdk
  let environment ← addTemplates language clientTemplate typesTemplate helpers
  return {
    language, extension := ".dart",
    clientPath := "lib/" ++ sdk.packageName ++ "_client.dart",
    typesPath := "lib/types.dart",
    additional := [
      { path := "pubspec.yaml", template := pubspecTemplate, data := some sdk.manifest },
      { path := "lib/src/json_rpc_client.dart", template := transportTemplate }],
    layout := ({ clientDir := "lib", typesDir := "lib" } : Layout).withExtraDir "lib/src",
    sdk, environment, additionalEnvironment := environment }

end ClientGen.Target.Dart
