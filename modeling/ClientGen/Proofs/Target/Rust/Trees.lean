import ClientGen.Proofs.Target.Shapes
import ClientGen.Proofs.Template.Equality
import ClientGen.Target.Rust

/-! # Trees of the Rust templates

What the templates of Rust packages say once they have been read.
-/

namespace ClientGen.Target.Rust

open Template

/-- The imports of a client, and the start of its constant. -/
def clientImports : String :=
  ")\n#![allow(unused_imports)]\n\nuse serde_json::json;\n\n"
    ++ "use crate::jsonrpc::\x7bJsonRpcClient, JsonRpcError\x7d;\nuse crate::types::*;\n\n"
    ++ "const API_PATH: &str = \""

/-- The constructor of a client. -/
def constructor : String :=
  "Client \x7b\n    pub fn new(endpoint: &str) -> Self \x7b\n"
    ++ "        let url = format!(\"\x7b\x7d\x7b\x7d\", "
    ++ "endpoint.trim_end_matches('/'), API_PATH);\n"
    ++ "        Self \x7b\n            rpc: JsonRpcClient::new(url),\n        \x7d\n    \x7d\n"

/-- The start of the function from variants to values. -/
def valueFunction : String :=
  " \x7b\n    /// Wire value of this member.\n"
    ++ "    pub fn value(self) -> serde_json::Value \x7b\n        match self \x7b\n"

/-- The dependencies in a manifest. -/
def dependencies : String :=
  "\"\n\n[dependencies]\nchrono = \x7b version = \"0.4\", features = [\"serde\"] \x7d\n"
    ++ "reqwest = \x7b version = \"0.12\", default-features = false, "
    ++ "features = [\"json\", \"rustls-tls\"] \x7d\n"
    ++ "serde = \x7b version = \"1\", features = [\"derive\"] \x7d\nserde_json = \"1\"\n"

def methodTree : List Stmt := [
  .text "\n",
  .ifPart 27 "method" "description" [
    .print 28 (.call 28 "docComment"
      [(none, .partOf 28 "method" "description"), (none, .literal (.str "    ///"))]),
    .text "\n"] [],
  .text "    pub async fn ",
  .helper 30 "rustMethodName" "method" "name",
  .text "(&self",
  .declarations 30 "rustFieldName" ": " "rustType",
  .text ") -> Result<",
  .print 30 (.choice 30 (.partOf 30 "method" "returns")
    (.applied 30 "rustType" (.partOf 30 "method" "returns")) (some (.literal (.str "()")))),
  .text ", JsonRpcError> \x7b\n        let params = json!(\x7b\n",
  .entries 32 "            \"" "\": " "rustFieldName",
  .text "        \x7d);\n",
  .ifPart 36 "method" "returns" [
    .text "        self.rpc.call(\"",
    .part 37 "method" "name",
    .text "\", params).await\n"] [
    .text "        self.rpc.call::<serde_json::Value>(\"",
    .part 39 "method" "name",
    .text "\", params).await?;\n        Ok(())\n"],
  .text "    \x7d\n"]

def clientTree : List Stmt := [
  .text "// Code generated by sdkgen. DO NOT EDIT.\n// Source: ",
  .part 2 "api" "package",
  .text " (",
  .part 2 "api" "apiVersion",
  .text clientImports,
  .part 10 "api" "apiPath",
  .text "\";\n\n/// Client for the ",
  .part 12 "api" "package",
  .text " API.\n#[derive(Debug, Clone)]\npub struct ",
  .print 14 (.applied 14 "rustClassName" (.name "moduleName")),
  .text "Client \x7b\n    rpc: JsonRpcClient,\n\x7d\n\nimpl ",
  .print 18 (.applied 18 "rustClassName" (.name "moduleName")),
  .text constructor,
  .forPart 25 "method" "api" "methods" methodTree [],
  .text "\x7d\n"]

/-- A field of a struct. -/
def fieldTree : List Stmt := [
  .ifPart 11 "field" "optional" [
    .text "    #[serde(rename = \"",
    .part 12 "field" "name",
    .text "\", default, skip_serializing_if = \"Option::is_none\")]\n"] [
    .text "    #[serde(rename = \"",
    .part 14 "field" "name",
    .text "\")]\n"],
  .text "    pub ",
  .helper 16 "rustFieldName" "field" "name",
  .text ": ",
  .fieldType 16 "rustFieldType",
  .text ",\n"]

def recordTree : List Stmt := [
  .text "\n#[derive(Debug, Clone, PartialEq, Serialize, Deserialize)]\npub struct ",
  .helper 9 "rustClassName" "type" "name",
  .text " \x7b\n",
  .forPart 10 "field" "type" "fields" fieldTree [],
  .text "\x7d\n"]

/-- A variant of an enumeration. -/
def variantTree : List Stmt := [
  .text "    ",
  .helper 25 "rustClassName" "value" "name",
  .text ",\n"]

/-- The value of a variant. -/
def valueTree : List Stmt := [
  .text "            Self::",
  .helper 34 "rustClassName" "value" "name",
  .text " => serde_json::json!(",
  .helper 34 "literal" "value" "value",
  .text "),\n"]

def enumTree : List Stmt := [
  .text "\n#[derive(Debug, Clone, Copy, PartialEq, Eq, Hash)]\npub enum ",
  .helper 23 "rustClassName" "enum" "name",
  .text " \x7b\n",
  .forPart 24 "value" "enum" "values" variantTree [],
  .text "\x7d\n\nimpl ",
  .helper 29 "rustClassName" "enum" "name",
  .text valueFunction,
  .forPart 33 "value" "enum" "values" valueTree [],
  .text "        \x7d\n    \x7d\n\x7d\n"]

def typesTree : List Stmt := [
  .text "// Code generated by sdkgen. DO NOT EDIT.\n// Source: ",
  .part 2 "types" "package",
  .text "\n#![allow(unused_imports)]\n\nuse serde::\x7bDeserialize, Serialize\x7d;\n",
  .forPart 6 "type" "types" "types" recordTree [],
  .forPart 20 "enum" "types" "enums" enumTree []]

def cargoTree : List Stmt := [
  .text "[package]\nname = \"",
  .print 2 (.name "package"),
  .text "\"\nversion = \"",
  .print 3 (.name "version"),
  .text "\"\nedition = \"2021\"\ndescription = \"",
  .print 5 (.summary 5),
  .text dependencies]

section Reading

set_option maxRecDepth 100000

def clientReading : Readable clientTemplate where
  stmts := clientTree
  read _ := by
    apply readAll_ofLines
    case spelled => repeat (first | apply Spelled.cons | exact .nil)
    case read => decide +kernel

def typesReading : Readable typesTemplate where
  stmts := typesTree
  read _ := by
    apply readAll_ofLines
    case spelled => repeat (first | apply Spelled.cons | exact .nil)
    case read => decide +kernel

def cargoReading : Readable cargoTemplate where
  stmts := cargoTree
  read _ := by
    apply readAll_ofLines
    case spelled => repeat (first | apply Spelled.cons | exact .nil)
    case read => decide +kernel

def libraryReading : Readable libraryTemplate where
  stmts := [.text libraryTemplate]
  read _ := by
    apply readAll_plain
    case spelled => repeat (first | apply Spelled.cons | exact .nil)
    case plain => decide +kernel
    case nonempty => exact List.cons_ne_nil _ _

def transportReading : Readable transportTemplate where
  stmts := [.text transportTemplate]
  read _ := by
    apply readAll_plain
    case spelled => repeat (first | apply Spelled.cons | exact .nil)
    case plain => decide +kernel
    case nonempty => exact List.cons_ne_nil _ _

end Reading

end ClientGen.Target.Rust
