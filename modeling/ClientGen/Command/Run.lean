import ClientGen.Command.Basic
import ClientGen.Command.Generate
import ClientGen.Command.Validate

/-! # Carrying out a command line -/

namespace ClientGen.Command

def helpLines : List String := [
  "Usage: sdkgen <COMMAND>",
  "",
  "Commands:",
  "  list      List the available target languages",
  "  generate  Generate client SDKs",
  "  validate  Validate API and type descriptions",
  "  schema    Print the JSON Schema of an input document",
  "  help      Print this message"]

def versionLine : String := "sdkgen 0.1.0"

def listLanguages (execution : Execution) : Bool × Execution :=
  match Catalog.ofBuiltins {} with
  | .error error => (false, execution.complainError error.message)
  | .ok catalog =>
    (true, execution.printAll ("Available languages" :: catalog.names.map ("  " ++ ·)))

def schemaOf : DocumentKind → Json
  | .api => Schema.apiSchema
  | .types => Schema.typesSchema

/-- Carry out a command. Tells whether it succeeds. -/
def run (command : Command) (execution : Execution) : Bool × Execution :=
  match command with
  | .help => (true, execution.printAll helpLines)
  | .version => (true, execution.print versionLine)
  | .list => listLanguages execution
  | .generate settingsFile overrides => generatePackages settingsFile overrides execution
  | .validate api types => reportOn api types execution
  | .schema kind => (true, execution.print (schemaOf kind).pretty)

/-- Exit codes of the program. -/
def success : Nat := 0

def failure : Nat := 1

def badUsage : Nat := 2

/-- Carry out a command line. Gives the exit code. -/
def runLine (texts : List String) (files : Files) : Nat × Execution :=
  let execution : Execution := { files }
  match read texts with
  | .error error => (badUsage, execution.complainError error.message)
  | .ok command =>
    let (ok, execution) := command.run execution
    (if ok then success else failure, execution)

end ClientGen.Command
