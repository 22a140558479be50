/-! # Findings and reports

A finding says what is wrong with a described model and where. A report collects findings
and knows whether the model is usable.
-/

namespace ClientGen

inductive Severity where
  | error | warning
  deriving Repr, DecidableEq, Inhabited

def Severity.name : Severity → String
  | .error => "error"
  | .warning => "warning"

/-- One finding. -/
structure Finding where
  /-- Stable name of the kind of finding. -/
  code : String
  severity : Severity
  message : String
  /-- File the finding belongs to. -/
  file : String
  /-- Where in the file: a path from the root `$`. -/
  path : String
  suggestion : Option String := none
  deriving Repr, DecidableEq, Inhabited

namespace Finding

def duplicateSymbol : String := "E_DUPLICATE_SYMBOL"
def missingField : String := "E_MISSING_FIELD"
def parseError : String := "E_PARSE_ERROR"
def schemaViolation : String := "E_SCHEMA_VIOLATION"
def unknownVersion : String := "W_UNKNOWN_VERSION"

def isError (finding : Finding) : Bool :=
  finding.severity = .error

end Finding

/-- Findings in the order in which they were made. -/
structure Report where
  /-- Whether the model is usable. Warnings do not make it unusable. -/
  ok : Bool := true
  findings : List Finding := []
  deriving Repr, DecidableEq, Inhabited

namespace Report

def ofFindings (findings : List Finding) : Report :=
  ⟨!findings.any Finding.isError, findings⟩

/-- Add a finding; an error makes the report fail. -/
def push (report : Report) (finding : Finding) : Report :=
  ⟨report.ok && !finding.isError, report.findings ++ [finding]⟩

/-- Add the findings of another report. -/
def merge (report other : Report) : Report :=
  other.findings.foldl push report

def count (report : Report) (severity : Severity) : Nat :=
  (report.findings.filter (·.severity = severity)).length

def hasErrors (report : Report) : Bool :=
  !report.ok

end Report

end ClientGen
