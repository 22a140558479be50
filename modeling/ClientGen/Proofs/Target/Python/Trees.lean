import ClientGen.Proofs.Target.Shapes
import ClientGen.Proofs.Template.Equality
import ClientGen.Target.Python

/-! # Trees of the Python templates

What the templates of Python packages say once they have been read.
-/

namespace ClientGen.Target.Python

open Template

/-- The imports of a client. -/
def clientImports : String :=
  ")\n\nfrom __future__ import annotations\n\nimport datetime\n"
    ++ "from typing import Any, Dict, List, Optional\n\nfrom ._jsonrpc import JsonRpcClient\n"
    ++ "from .types import *  # noqa: F401,F403\n\n\nclass "

/-- The start of the initializer of a client. -/
def initializer : String :=
  " API.\"\"\"\n\n    def __init__(self, endpoint: str, timeout: float = 30.0) -> None:\n"
    ++ "        self._rpc = JsonRpcClient(endpoint.rstrip(\"/\") + \""

/-- The imports of a types file. -/
def typesImports : String :=
  "\n\nfrom __future__ import annotations\n\nimport datetime\n"
    ++ "from dataclasses import dataclass\nfrom enum import Enum\n"
    ++ "from typing import List, Optional\n"

/-- The start of a manifest. -/
def buildSystem : String :=
  "[build-system]\nrequires = [\"setuptools>=68\"]\n"
    ++ "build-backend = \"setuptools.build_meta\"\n\n[project]\nname = \""

/-- What a manifest says behind the description. -/
def requirements : String :=
  "\"\nrequires-python = \">=3.10\"\ndependencies = []\n\n"
    ++ "[tool.setuptools]\npackages = [\""

def methodTree : List Stmt := [
  .text "\n",
  .ifPart 20 "method" "returns" [
    .text "    def ",
    .helper 21 "pyMethodName" "method" "name",
    .text "(self",
    .declarations 21 "pyIdent" ": " "pyType",
    .text ") -> ",
    .helper 21 "pyType" "method" "returns",
    .text ":\n"] [
    .text "    def ",
    .helper 23 "pyMethodName" "method" "name",
    .text "(self",
    .declarations 23 "pyIdent" ": " "pyType",
    .text ") -> None:\n"],
  .ifPart 25 "method" "description" [
    .text "        \"\"\"",
    .print 26 (.filter 26 (.applied 26 "pyDocstring" (.partOf 26 "method" "description"))
      "indent" [(none, .literal (.int 8))]),
    .text "\"\"\"\n"] [],
  .text "        params: Dict[str, Any] = \x7b\n",
  .entries 29 "            \"" "\": " "pyIdent",
  .text "        \x7d\n",
  .ifPart 33 "method" "returns" [
    .text "        return self._rpc.call(\"",
    .part 34 "method" "name",
    .text "\", params)\n"] [
    .text "        self._rpc.call(\"",
    .part 36 "method" "name",
    .text "\", params)\n"]]

def clientTree : List Stmt := [
  .text "# Code generated by sdkgen. DO NOT EDIT.\n# Source: ",
  .part 2 "api" "package",
  .text " (",
  .part 2 "api" "apiVersion",
  .text clientImports,
  .print 13 (.applied 13 "pyClassName" (.name "moduleName")),
  .text "Client:\n    \"\"\"Client for the ",
  .part 14 "api" "package",
  .text initializer,
  .part 17 "api" "apiPath",
  .text "\", timeout=timeout)\n",
  .forPart 18 "method" "api" "methods" methodTree []]

/-- A field of a class. -/
def fieldTree : List Stmt := [
  .text "    ",
  .helper 16 "pyIdent" "field" "name",
  .text ": ",
  .fieldType 16 "pyFieldType",
  .pick 16 (.partOf 16 "field" "optional") " = None" "",
  .text "\n"]

def recordTree : List Stmt := [
  .text "\n\n@dataclass(kw_only=True)\nclass ",
  .helper 14 "pyClassName" "type" "name",
  .text ":\n",
  .forPart 15 "field" "type" "fields" fieldTree [.text "    pass\n"]]

def memberTree : List Stmt := [
  .text "    ",
  .print 26 (.filter 26 (.applied 26 "snakeCase" (.partOf 26 "value" "name")) "upper" []),
  .text " = ",
  .helper 26 "literal" "value" "value",
  .text "\n"]

def enumTree : List Stmt := [
  .text "\n\nclass ",
  .helper 24 "pyClassName" "enum" "name",
  .text "(Enum):\n",
  .forPart 25 "value" "enum" "values" memberTree [.text "    pass\n"]]

def typesTree : List Stmt := [
  .text "# Code generated by sdkgen. DO NOT EDIT.\n# Source: ",
  .part 2 "types" "package",
  .text typesImports,
  .forPart 10 "type" "types" "types" recordTree [],
  .forPart 21 "enum" "types" "enums" enumTree []]

def pyprojectTree : List Stmt := [
  .text buildSystem,
  .print 6 (.name "package"),
  .text "\"\nversion = \"",
  .print 7 (.name "version"),
  .text "\"\ndescription = \"",
  .print 8 (.summary 8),
  .text requirements,
  .print 13 (.name "package"),
  .text "\"]\n"]

section Reading

set_option maxRecDepth 100000

def clientReading : Readable clientTemplate where
  stmts := clientTree
  read _ := by
    apply readAll_ofLines
    case spelled => repeat (first | apply Spelled.cons | exact .nil)
    case read => decide +kernel

def typesReading : Readable typesTemplate where
  stmts := typesTree
  read _ := by
    apply readAll_ofLines
    case spelled => repeat (first | apply Spelled.cons | exact .nil)
    case read => decide +kernel

def pyprojectReading : Readable pyprojectTemplate where
  stmts := pyprojectTree
  read _ := by
    apply readAll_ofLines
    case spelled => repeat (first | apply Spelled.cons | exact .nil)
    case read => decide +kernel

def packageReading : Readable packageTemplate where
  stmts := [.text packageTemplate]
  read _ := by
    apply readAll_plain
    case spelled => repeat (first | apply Spelled.cons | exact .nil)
    case plain => decide +kernel
    case nonempty => exact List.cons_ne_nil _ _

def transportReading : Readable transportTemplate where
  stmts := [.text transportTemplate]
  read _ := by
    apply readAll_plain
    case spelled => repeat (first | apply Spelled.cons | exact .nil)
    case plain => decide +kernel
    case nonempty => exact List.cons_ne_nil _ _

end Reading

end ClientGen.Target.Python
