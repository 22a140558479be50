import ClientGen.Proofs.Target.Shapes
import ClientGen.Proofs.Template.Equality
import ClientGen.Target.Go

/-! # Trees of the Go templates

What the templates of Go packages say once they have been read.
-/

namespace ClientGen.Target.Go

open Template

/-- The imports of a client, and the start of its comment. -/
def clientImports : String :=
  "\n\nimport (\n\t\"context\"\n\t\"strings\"\n\t\"time\"\n)\n\n"
    ++ "var (\n\t_ context.Context\n\t_ time.Time\n)\n\n// "

def methodTree : List Stmt := [
  .text "\n",
  .ifPart 28 "method" "description" [
    .print 29 (.call 29 "docComment"
      [(none, .binary 29 .join
          (.binary 29 .join (.applied 29 "goMethodName" (.partOf 29 "method" "name"))
            (.literal (.str " ")))
          (.partOf 29 "method" "description")),
        (none, .literal (.str "//"))]),
    .text "\n"] [],
  .ifPart 31 "method" "returns" [
    .text "func (c *",
    .print 32 (.applied 32 "goExportedName" (.name "moduleName")),
    .text "Client) ",
    .helper 32 "goMethodName" "method" "name",
    .text "(ctx context.Context",
    .declarations 32 "goParamName" " " "goType",
    .text ") (",
    .helper 32 "goType" "method" "returns",
    .text ", error) \x7b\n"] [
    .text "func (c *",
    .print 34 (.applied 34 "goExportedName" (.name "moduleName")),
    .text "Client) ",
    .helper 34 "goMethodName" "method" "name",
    .text "(ctx context.Context",
    .declarations 34 "goParamName" " " "goType",
    .text ") error \x7b\n"],
  .text "\tparams := map[string]any\x7b\n",
  .entries 37 "\t\t\"" "\": " "goParamName",
  .text "\t\x7d\n",
  .ifPart 41 "method" "returns" [
    .text "\tvar result ",
    .helper 42 "goType" "method" "returns",
    .text "\n\terr := c.rpc.Call(ctx, \"",
    .part 43 "method" "name",
    .text "\", params, &result)\n\treturn result, err\n"] [
    .text "\treturn c.rpc.Call(ctx, \"",
    .part 46 "method" "name",
    .text "\", params, nil)\n"],
  .text "\x7d\n"]

def clientTree : List Stmt := [
  .text "// Code generated by sdkgen. DO NOT EDIT.\n// Source: ",
  .part 2 "api" "package",
  .text " (",
  .part 2 "api" "apiVersion",
  .text ")\n\npackage ",
  .print 4 (.name "goPackage"),
  .text clientImports,
  .print 17 (.applied 17 "goExportedName" (.name "moduleName")),
  .text "Client calls the ",
  .print 17 (.name "packageName"),
  .text " API.\ntype ",
  .print 18 (.applied 18 "goExportedName" (.name "moduleName")),
  .text "Client struct \x7b\n\trpc *JSONRPCClient\n\x7d\n\n// New",
  .print 22 (.applied 22 "goExportedName" (.name "moduleName")),
  .text "Client returns a client for the server at endpoint.\nfunc New",
  .print 23 (.applied 23 "goExportedName" (.name "moduleName")),
  .text "Client(endpoint string) *",
  .print 23 (.applied 23 "goExportedName" (.name "moduleName")),
  .text "Client \x7b\n\treturn &",
  .print 24 (.applied 24 "goExportedName" (.name "moduleName")),
  .text "Client\x7brpc: NewJSONRPCClient(strings.TrimRight(endpoint, \"/\") + \"",
  .part 24 "api" "apiPath",
  .text "\")\x7d\n\x7d\n",
  .forPart 26 "method" "api" "methods" methodTree []]

/-- A field of a struct. -/
def fieldTree : List Stmt := [
  .text "\t",
  .helper 13 "goExportedName" "field" "name",
  .text " ",
  .fieldType 13 "goFieldType",
  .text " \x60json:\"",
  .part 13 "field" "name",
  .pick 13 (.partOf 13 "field" "optional") ",omitempty" "",
  .text "\"\x60\n"]

def recordTree : List Stmt := [
  .text "\ntype ",
  .helper 11 "goExportedName" "type" "name",
  .text " struct \x7b\n",
  .forPart 12 "field" "type" "fields" fieldTree [],
  .text "\x7d\n"]

def memberTree : List Stmt := [
  .text "\t",
  .helper 22 "goExportedName" "enum" "name",
  .helper 22 "goExportedName" "value" "name",
  .text " = ",
  .helper 22 "literal" "value" "value",
  .text "\n"]

def enumTree : List Stmt := [
  .text "\n// ",
  .helper 19 "goExportedName" "enum" "name",
  .text " values.\nconst (\n",
  .forPart 21 "value" "enum" "values" memberTree [],
  .text ")\n"]

def typesTree : List Stmt := [
  .text "// Code generated by sdkgen. DO NOT EDIT.\n// Source: ",
  .part 2 "types" "package",
  .text "\n\npackage ",
  .print 4 (.name "goPackage"),
  .text "\n\nimport \"time\"\n\nvar _ time.Time\n",
  .forPart 9 "type" "types" "types" recordTree [],
  .forPart 17 "enum" "types" "enums" enumTree []]

def goModTree : List Stmt := [
  .text "module ",
  .print 1 (.name "package"),
  .text "\n\ngo 1.21\n"]

/-- The text before the package name. -/
def transportStart : String :=
  "// Code generated by sdkgen. DO NOT EDIT.\n\npackage "

/-- The text behind it, which has no delimiters. -/
def transportEnd : String :=
  String.ofList (transportTemplate.toList.drop 66)

def transportTree : List Stmt := [
  .text transportStart,
  .print 3 (.name "goPackage"),
  .text transportEnd]

section Reading

set_option maxRecDepth 100000

def clientReading : Readable clientTemplate where
  stmts := clientTree
  read _ := by
    apply readAll_ofLines
    case spelled => repeat (first | apply Spelled.cons | exact .nil)
    case read => decide +kernel

def typesReading : Readable typesTemplate where
  stmts := typesTree
  read _ := by
    apply readAll_ofLines
    case spelled => repeat (first | apply Spelled.cons | exact .nil)
    case read => decide +kernel

def goModReading : Readable goModTemplate where
  stmts := goModTree
  read _ := by
    apply readAll_ofLines
    case spelled => repeat (first | apply Spelled.cons | exact .nil)
    case read => decide +kernel

theorem scan_transport :
    Token.scan transportTemplate = [
      ⟨.text transportStart, 1⟩, ⟨.valueStart, 3⟩, ⟨.ident "goPackage", 3⟩, ⟨.valueEnd, 3⟩]
      ++ [⟨.text transportEnd, 3⟩] := by
  apply Spelled.scan_eq_append
  case spelled => repeat (first | apply Spelled.cons | exact .nil)
  case count => exact 3
  case nonempty => exact List.cons_ne_nil _ _
  all_goals decide +kernel

def transportReading : Readable transportTemplate where
  stmts := transportTree
  read _ := by
    rw [Stmt.readAll, scan_transport]
    rfl

end Reading

end ClientGen.Target.Go
