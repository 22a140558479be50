import ClientGen.Model.Document

/-! # What a command does

The files behind it, what it prints, and whether it succeeds.
-/

namespace ClientGen

/-- The state of a command that is being carried out. -/
structure Execution where
  files : Files
  /-- Lines of output. -/
  output : List String := []
  /-- Lines on what went wrong. -/
  complaints : List String := []

namespace Execution

def print (line : String) (execution : Execution) : Execution :=
  { execution with output := execution.output ++ [line] }

def printAll (lines : List String) (execution : Execution) : Execution :=
  { execution with output := execution.output ++ lines }

def complain (line : String) (execution : Execution) : Execution :=
  { execution with complaints := execution.complaints ++ [line] }

/-- A complaint about what a command cannot do. -/
def complainError (message : String) (execution : Execution) : Execution :=
  execution.complain ("error: " ++ message)

end Execution

/-- A finding as it is printed. -/
def Finding.lines (finding : Finding) : List String :=
  ("  " ++ finding.severity.name ++ " [" ++ finding.code ++ "] " ++ finding.message ++ " ("
      ++ finding.file ++ ":" ++ finding.path ++ ")")
    :: finding.suggestion.toList.map fun suggestion => "    hint: " ++ suggestion

def Report.lines (report : Report) : List String :=
  report.findings.flatMap Finding.lines

/-- Models that cannot be loaded, by what they describe. -/
inductive ModelError where
  | api (path : String) (error : LoadError)
  | types (path : String) (error : LoadError)
  deriving Repr, DecidableEq

def ModelError.message : ModelError → String
  | .api path error => "Failed to load API description '" ++ path ++ "': " ++ error.message
  | .types path error => "Failed to load type definitions '" ++ path ++ "': " ++ error.message

def loadApi (files : Files) (path : String) : Except ModelError (Api × Report) :=
  (ModelKind.api.load files path).mapError (ModelError.api path)

def loadTypes (files : Files) (path : String) : Except ModelError (Types × Report) :=
  (ModelKind.types.load files path).mapError (ModelError.types path)

end ClientGen
