import ClientGen.Target.Basic
import ClientGen.Target.Templates.Python
import ClientGen.TypeMap

/-! # Python

Names are in snake case, and those that are reserved get an underscore at the end.
-/

namespace ClientGen.Target.Python

def language : String := "python"

/-- Words that cannot be used as names, and the name of every method's first parameter. -/
def keywords : List String := [
  "False", "None", "True", "and", "as", "assert", "async", "await", "break", "class",
  "continue", "def", "del", "elif", "else", "except", "finally", "for", "from", "global",
  "if", "import", "in", "is", "lambda", "nonlocal", "not", "or", "pass", "raise", "return",
  "try", "while", "with", "yield", "self"]

def typeName (source : String) : String :=
  TypeMap.target source language

/-- The name of a method, a parameter or a field. -/
def identifier (name : String) : String :=
  let name := Naming.snakeCase name
  if keywords.contains name then name ++ "_" else name

/-- A text between triple quotes, so that it does not end them: backslashes and runs of three
    quotes are escaped, and so is a quote at the end. -/
def docstring (text : String) : String :=
  let body := Text.replace (Text.trimEnd text) "\\" "\\\\"
  let body := Text.replace body "\"\"\"" "\\\"\\\"\\\""
  match body.toList.getLast? with
  | some '"' => String.ofList body.toList.dropLast ++ "\\\""
  | _ => body

def fieldType (source : String) (optional list : Bool) : String :=
  let base := typeName source
  let type := if list then "List[" ++ base ++ "]" else base
  if optional then "Optional[" ++ type ++ "]" else type

/-- What the templates can use. -/
def helpers : Template.Environment :=
  (((((Template.Environment.standard.bindHelper "pyType" typeName).bindHelper
    "pyClassName" Naming.upperCamel).bindHelper
    "pyMethodName" identifier).bindHelper
    "pyIdent" identifier).bindHelper
    "pyDocstring" docstring).bindFieldHelper
    "pyFieldType" fieldType

/-- The target for a package. -/
def target (sdk : Sdk) : Except GenerationError Target := do
  checkSdk sdk
  let environment ← addTemplates language clientTemplate typesTemplate helpers
  let dir := sdk.packageName
  return {
    language, extension := ".py", clientPath := dir ++ "/client.py",
    typesPath := dir ++ "/types.py",
    additional := [
      { path := "pyproject.toml", template := pyprojectTemplate, data := some sdk.manifest },
      { path := dir ++ "/__init__.py", template := packageTemplate },
      { path := dir ++ "/_jsonrpc.py", template := transportTemplate }],
    layout := { clientDir := dir, typesDir := dir },
    sdk, environment, additionalEnvironment := environment }

end ClientGen.Target.Python
