import ClientGen.Model.Report
import ClientGen.Schema.Meta

/-! # Findings of schema violations -/

namespace ClientGen.Schema

/-- A finding on a document that does not have the form it should have. -/
def finding (file message path : String) : Finding :=
  { code := Finding.schemaViolation, severity := .error, message, file, path }

/-- What is wrong with a value as a document of some form. A schema that is none itself is the
    only finding. -/
def findings (schema value : Json) (file : String) : List Finding :=
  match fault? schema with
  | some fault => [finding file ("Invalid schema: " ++ fault.message) "$"]
  | none =>
    (violations (dialectOf schema) schema value).map fun violation =>
      finding file violation.mismatch.message ("$" ++ violation.path)

end ClientGen.Schema
