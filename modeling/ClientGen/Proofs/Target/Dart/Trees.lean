import ClientGen.Proofs.Target.Shapes
import ClientGen.Proofs.Template.Equality
import ClientGen.Target.Dart

/-! # Trees of the Dart templates

What the templates of Dart packages say once they have been read.
-/

namespace ClientGen.Target.Dart

open Template

/-- The imports of a client, and the start of its comment. -/
def clientImports : String :=
  ")\n\nimport 'dart:typed_data';\n\nimport 'src/json_rpc_client.dart';\n"
    ++ "import 'types.dart';\n\n/// Client for the "

/-- The part of a manifest that is the same for all packages. -/
def pubspecEnd : String :=
  "\n\nenvironment:\n  sdk: '>=3.0.0 <4.0.0'\n\ndependencies:\n  http: ^1.1.0\n\n"
    ++ "dev_dependencies:\n  lints: ^3.0.0\n  test: ^1.24.0\n"

/-- A parameter of a signature. -/
def parameterTree (line : Nat) : List Stmt := [
  .helper line "dartType" "p" "type",
  .text " ",
  .helper line "dartParamName" "p" "name",
  .pick line (.not line (.partOf line "loop" "last")) ", " ""]

def methodTree : List Stmt := [
  .text "\n",
  .ifPart 20 "method" "description" [
    .print 21 (.call 21 "docComment"
      [(none, .partOf 21 "method" "description"), (none, .literal (.str "  ///"))]),
    .text "\n"] [],
  .ifPart 23 "method" "returns" [
    .text "  Future<",
    .helper 24 "dartType" "method" "returns",
    .text "> ",
    .helper 24 "dartMethodName" "method" "name",
    .text "(",
    .forPart 24 "p" "method" "params" (parameterTree 24) [],
    .text ") async \x7b\n"] [
    .text "  Future<void> ",
    .helper 26 "dartMethodName" "method" "name",
    .text "(",
    .forPart 26 "p" "method" "params" (parameterTree 26) [],
    .text ") async \x7b\n"],
  .text "    final params = <String, dynamic>\x7b\n",
  .entries 29 "      '" "': " "dartParamName",
  .text "    \x7d;\n",
  .ifPart 33 "method" "returns" [
    .text "    return await _rpc.call<",
    .helper 34 "dartType" "method" "returns",
    .text ">('",
    .part 34 "method" "name",
    .text "', params);\n"] [
    .text "    await _rpc.call<dynamic>('",
    .part 36 "method" "name",
    .text "', params);\n"],
  .text "  \x7d\n"]

def clientTree : List Stmt := [
  .text "// Code generated by sdkgen. DO NOT EDIT.\n// Source: ",
  .part 2 "api" "package",
  .text " (",
  .part 2 "api" "apiVersion",
  .text clientImports,
  .part 9 "api" "package",
  .text " API.\nclass ",
  .print 10 (.applied 10 "dartClassName" (.name "moduleName")),
  .text "Client \x7b\n  final JsonRpcClient _rpc;\n\n  ",
  .print 13 (.applied 13 "dartClassName" (.name "moduleName")),
  .text "Client(String endpoint)\n      : _rpc = JsonRpcClient(endpoint + '",
  .part 14 "api" "apiPath",
  .text "');\n\n  /// Closes the underlying HTTP client.\n  void close() => _rpc.close();\n",
  .forPart 18 "method" "api" "methods" methodTree [],
  .text "\x7d\n"]

/-- A field of a class. -/
def fieldTree : List Stmt := [
  .text "  final ",
  .fieldType 9 "dartFieldType",
  .text " ",
  .helper 9 "dartIdent" "field" "name",
  .text ";\n"]

/-- A parameter of a constructor. -/
def constructorTree : List Stmt := [
  .text "    ",
  .pick 14 (.partOf 14 "field" "optional") "" "required ",
  .text "this.",
  .helper 14 "dartIdent" "field" "name",
  .text ",\n"]

/-- An entry of a JSON object. -/
def jsonTree : List Stmt := [
  .text "        '",
  .part 20 "field" "name",
  .text "': ",
  .helper 20 "dartIdent" "field" "name",
  .text ",\n"]

def recordTree : List Stmt := [
  .text "\nclass ",
  .helper 7 "dartClassName" "type" "name",
  .text " \x7b\n",
  .forPart 8 "field" "type" "fields" fieldTree [],
  .text "\n  const ",
  .helper 12 "dartClassName" "type" "name",
  .text "(\x7b\n",
  .forPart 13 "field" "type" "fields" constructorTree [],
  .text "  \x7d);\n\n  Map<String, dynamic> toJson() => <String, dynamic>\x7b\n",
  .forPart 19 "field" "type" "fields" jsonTree [],
  .text "      \x7d;\n\x7d\n"]

def memberTree : List Stmt := [
  .text "  ",
  .helper 29 "dartIdent" "value" "name",
  .text "(",
  .helper 29 "literal" "value" "value",
  .text ")",
  .pick 29 (.partOf 29 "loop" "last") ";" ",",
  .text "\n"]

def enumTree : List Stmt := [
  .text "\nenum ",
  .helper 27 "dartClassName" "enum" "name",
  .text " \x7b\n",
  .forPart 28 "value" "enum" "values" memberTree [],
  .text "\n  final Object value;\n\n  const ",
  .helper 34 "dartClassName" "enum" "name",
  .text "(this.value);\n\x7d\n"]

def typesTree : List Stmt := [
  .text "// Code generated by sdkgen. DO NOT EDIT.\n// Source: ",
  .part 2 "types" "package",
  .text "\n\nimport 'dart:typed_data';\n",
  .forPart 5 "type" "types" "types" recordTree [],
  .forPart 25 "enum" "types" "enums" enumTree []]

def pubspecTree : List Stmt := [
  .text "name: ",
  .print 1 (.name "package"),
  .text "\ndescription: ",
  .print 2 (.summary 2),
  .text "\nversion: ",
  .print 3 (.name "version"),
  .text pubspecEnd]

section Reading

set_option maxRecDepth 100000

def clientReading : Readable clientTemplate where
  stmts := clientTree
  read _ := by
    apply readAll_ofLines
    case spelled => repeat (first | apply Spelled.cons | exact .nil)
    case read => decide +kernel

def typesReading : Readable typesTemplate where
  stmts := typesTree
  read _ := by
    apply readAll_ofLines
    case spelled => repeat (first | apply Spelled.cons | exact .nil)
    case read => decide +kernel

def pubspecReading : Readable pubspecTemplate where
  stmts := pubspecTree
  read _ := by
    apply readAll_ofLines
    case spelled => repeat (first | apply Spelled.cons | exact .nil)
    case read => decide +kernel

def transportReading : Readable transportTemplate where
  stmts := [.text transportTemplate]
  read _ := by
    apply readAll_plain
    case spelled => repeat (first | apply Spelled.cons | exact .nil)
    case plain => decide +kernel
    case nonempty => exact List.cons_ne_nil _ _

end Reading

end ClientGen.Target.Dart
