import ClientGen.Files.Basic
import ClientGen.Json.Reader
import ClientGen.Model.Check
import ClientGen.Model.Codec
import ClientGen.Schema.Findings
import ClientGen.Schema.Models
import ClientGen.Yaml.Reader

/-! # Reading described models

A model is written as a JSON or a YAML document. A document that does not have the form of the
model is refused as a whole; a model that can be read comes with a report on what it says.
-/

namespace ClientGen

inductive DocumentFormat where
  | json | yaml
  deriving Repr, DecidableEq

/-- The format that the extension of a path names. -/
def DocumentFormat.ofPath? (path : String) : Option DocumentFormat :=
  match Path.extension? path with
  | some "json" => some .json
  | some "yaml" | some "yml" => some .yaml
  | _ => none

/-- Why a model cannot be read from a file. -/
inductive LoadError where
  | notFound (file : String)
  | unknownFormat (file : String)
  | unreadable (file : String) (error : FileError)
  | malformed (finding : Finding)
  | violations (file : String) (report : Report)
  deriving Repr, DecidableEq

def LoadError.message : LoadError → String
  | .notFound file => "Model file not found: " ++ file
  | .unknownFormat file =>
    "Unsupported model file format: " ++ file ++ " (expected .json, .yaml or .yml)"
  | .unreadable file error => "I/O error reading " ++ file ++ ": " ++ error.message
  | .malformed finding => "Failed to parse " ++ finding.file ++ ": " ++ finding.message
  | .violations file report =>
    file ++ " does not match the model schema (" ++ toString report.findings.length
      ++ " violation(s))"

namespace Finding

/-- A finding on a text that is no document. -/
def malformed (file format message path : String) : Finding :=
  { code := parseError, severity := .error, message := format ++ " parse error: " ++ message,
    file, path, suggestion := some ("Check " ++ format ++ " syntax and field types") }

/-- The place of a finding in a text. -/
def linePath (line column : Nat) : String :=
  "$.line:" ++ toString line ++ ":col:" ++ toString column

def ofJson (file : String) (error : Json.ReadError) : Finding :=
  malformed file "JSON" error.message (linePath error.line error.column)

/-- A fault of a value that comes from no line of a text. -/
def ofDecoding (file : String) (error : Json.DecodeError) : Finding :=
  malformed file "JSON" error.message (linePath 0 0)

def ofYaml (file : String) (error : Yaml.ReadError) : Finding :=
  malformed file "YAML" error.message
    (match error.mark? with
      | some mark => linePath (mark.line + 1) (mark.column + 1)
      | none => "$")

end Finding

/-- The value of a document. -/
def DocumentFormat.parse (format : DocumentFormat) (file content : String) :
    Except LoadError Json :=
  match format with
  | .json => (Json.parse content).mapError fun error => .malformed (Finding.ofJson file error)
  | .yaml => (Yaml.parse content).mapError fun error => .malformed (Finding.ofYaml file error)

/-- A kind of model: the form of its documents, what they say, and what may be wrong with it. -/
structure ModelKind (α : Type) where
  schema : Json
  decode : Json → Except Json.DecodeError α
  check : α → String → Report

namespace ModelKind

def api : ModelKind Api := ⟨Schema.apiSchema, Api.decode, Check.api⟩

def types : ModelKind Types := ⟨Schema.typesSchema, Types.decode, Check.types⟩

/-- The model that a value describes. -/
def ofValue (kind : ModelKind α) (file : String) (value : Json) : Except LoadError α :=
  match Schema.findings kind.schema value file with
  | [] => (kind.decode value).mapError fun error => .malformed (Finding.ofDecoding file error)
  | violations => .error (.violations file (Report.ofFindings violations))

/-- The model that a document describes. -/
def parse (kind : ModelKind α) (format : DocumentFormat) (file content : String) :
    Except LoadError α := do
  kind.ofValue file (← format.parse file content)

/-- The model and the report on it. -/
def withReport (kind : ModelKind α) (file : String) (model : α) : α × Report :=
  (model, kind.check model file)

/-- Read a model from a file. Whether there is a file is asked first, then for its format. -/
def load (kind : ModelKind α) (files : Files) (path : String) : Except LoadError (α × Report) := do
  if !files.isFile path then throw (.notFound path)
  match DocumentFormat.ofPath? path with
  | none => throw (.unknownFormat path)
  | some format =>
    let content ← (files.readText path).mapError (LoadError.unreadable path)
    return kind.withReport path (← kind.parse format path content)

end ModelKind

end ClientGen
