import ClientGen.Target.Basic
import ClientGen.Target.Templates.Go
import ClientGen.TypeMap

/-! # Go

Exported names start with a capital, parameters do not, and a parameter that is reserved
gets an underscore at the end. All files share one package clause.
-/

namespace ClientGen.Target.Go

def language : String := "go"

/-- Words that cannot be used as names. -/
def keywords : List String := [
  "break", "case", "chan", "const", "continue", "default", "defer", "else", "fallthrough",
  "for", "func", "go", "goto", "if", "import", "interface", "map", "package", "range",
  "return", "select", "struct", "switch", "type", "var"]

/-- Names that every generated method binds. -/
def boundNames : List String := ["c", "ctx", "params", "result", "err"]

def typeName (source : String) : String :=
  TypeMap.target source language

def paramName (name : String) : String :=
  let name := Naming.lowerCamel name
  if keywords.contains name || boundNames.contains name then name ++ "_" else name

def fieldType (source : String) (optional list : Bool) : String :=
  let base := typeName source
  let type := if list then "[]" ++ base else base
  if optional then "*" ++ type else type

/-- What the templates of a package can use. -/
def helpers (sdk : Sdk) : Template.Environment :=
  (((((Template.Environment.standard.bindHelper "goType" typeName).bindHelper
    "goExportedName" Naming.upperCamel).bindHelper
    "goMethodName" Naming.upperCamel).bindHelper
    "goParamName" paramName).bindFieldHelper
    "goFieldType" fieldType).bindValue "goPackage" (.str sdk.packageName)

/-- The target for a package. -/
def target (sdk : Sdk) : Except GenerationError Target := do
  checkSdk sdk
  let environment ← addTemplates language clientTemplate typesTemplate (helpers sdk)
  return {
    language, extension := ".go", clientPath := "client.go", typesPath := "types.go",
    additional := [
      { path := "go.mod", template := goModTemplate, data := some sdk.manifest },
      { path := "jsonrpc.go", template := transportTemplate }],
    layout := { clientDir := ".", typesDir := "." },
    sdk, environment, additionalEnvironment := environment }

end ClientGen.Target.Go
