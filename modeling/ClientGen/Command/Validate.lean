import ClientGen.Command.Execution

/-! # Reporting on models -/

namespace ClientGen.Command

/-- What the models contain, in a summary. -/
def contentSummary (api : Api) (types : Option Types) : String :=
  toString api.methods.length ++ " methods" ++
    match types with
    | some types =>
      ", " ++ toString types.types.length ++ " types, " ++ toString types.enums.length ++ " enums"
    | none => ""

/-- The verdict on models. Warnings alone are no failure. -/
def verdict (api : Api) (types : Option Types) (report : Report) : String :=
  let errors := report.count .error
  let warnings := report.count .warning
  if errors = 0 && warnings = 0 then
    "✓ Description is valid (" ++ contentSummary api types ++ ")"
  else if errors = 0 then "⚠ Valid with " ++ toString warnings ++ " warning(s)"
  else "✗ " ++ toString errors ++ " error(s), " ++ toString warnings ++ " warning(s)"

/-- Print findings and verdict. -/
def conclude (api : Api) (types : Option Types) (report : Report) (execution : Execution) :
    Bool × Execution :=
  (report.count .error = 0,
    execution.printAll (report.lines ++ ["", verdict api types report]))

/-- Load an API description, and perhaps type definitions, and report on both. -/
def reportOn (apiPath : String) (typesPath : Option String) (execution : Execution) :
    Bool × Execution :=
  let execution := execution.print ("Validating " ++ apiPath)
  match loadApi execution.files apiPath with
  | .error error => (false, execution.complainError error.message)
  | .ok (api, report) =>
    match typesPath with
    | none => conclude api none report execution
    | some typesPath =>
      let execution := execution.print ("Validating " ++ typesPath)
      match loadTypes execution.files typesPath with
      | .error error => (false, execution.complainError error.message)
      | .ok (types, typesReport) =>
        conclude api (some types) (report.merge typesReport) execution

end ClientGen.Command
