import ClientGen.Target.Basic
import ClientGen.Target.Templates.Rust
import ClientGen.TypeMap

/-! # Rust

Names are in snake case. Those that are reserved become raw identifiers, or get an
underscore at the end where there is no raw form.
-/

namespace ClientGen.Target.Rust

def language : String := "rust"

/-- Words that are names in their raw form only. -/
def keywords : List String := [
  "as", "async", "await", "break", "const", "continue", "dyn", "else", "enum", "extern",
  "false", "fn", "for", "if", "impl", "in", "let", "loop", "match", "mod", "move", "mut",
  "pub", "ref", "return", "static", "struct", "trait", "true", "type", "unsafe", "use",
  "where", "while", "abstract", "become", "box", "do", "final", "macro", "override", "priv",
  "try", "typeof", "unsized", "virtual", "yield"]

/-- Words that have no raw form. -/
def nonRawKeywords : List String := ["self", "super", "crate", "_"]

def typeName (source : String) : String :=
  TypeMap.target source language

/-- The name of a method, a parameter or a field. -/
def identifier (name : String) : String :=
  let name := Naming.snakeCase name
  if nonRawKeywords.contains name then name ++ "_"
  else if keywords.contains name then "r#" ++ name
  else name

def fieldType (source : String) (optional list : Bool) : String :=
  let base := typeName source
  let type := if list then "Vec<" ++ base ++ ">" else base
  if optional then "Option<" ++ type ++ ">" else type

/-- What the templates can use. -/
def helpers : Template.Environment :=
  (((((Template.Environment.standard.bindHelper "rustType" typeName).bindHelper
    "rustClassName" Naming.upperCamel).bindHelper
    "rustMethodName" identifier).bindHelper
    "rustFieldName" identifier).bindFieldHelper
    "rustFieldType" fieldType).bindLiteral .rust

/-- The target for a package. -/
def target (sdk : Sdk) : Except GenerationError Target := do
  checkSdk sdk
  let environment ← addTemplates language clientTemplate typesTemplate helpers
  return {
    language, extension := ".rs", clientPath := "src/client.rs", typesPath := "src/types.rs",
    additional := [
      { path := "Cargo.toml", template := cargoTemplate, data := some sdk.manifest },
      { path := "src/lib.rs", template := libraryTemplate },
      { path := "src/jsonrpc.rs", template := transportTemplate }],
    layout := { clientDir := "src", typesDir := "src" },
    sdk, environment, additionalEnvironment := environment }

end ClientGen.Target.Rust
