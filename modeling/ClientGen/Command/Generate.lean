import ClientGen.Command.Execution
import ClientGen.Project
import ClientGen.Settings.Basic
import ClientGen.Target.Catalog

/-! # Generating client packages

Models with errors are not generated from. Every language has a directory of its own, and one that
fails does not keep the others from being generated.
-/

namespace ClientGen

/-- Why a package cannot be written. -/
inductive WriteError where
  | noDirectory (path : String) (error : FileError)
  | noFile (path : String) (error : FileError)
  /-- A file would land outside of the package's directory. -/
  | outside (path directory : String)
  deriving Repr, DecidableEq

def WriteError.message : WriteError → String
  | .noDirectory path error =>
    "Failed to create directory '" ++ path ++ "': " ++ error.message
  | .noFile path error => "Failed to write '" ++ path ++ "': " ++ error.message
  | .outside path directory =>
    "refusing to write '" ++ path ++ "' outside '" ++ directory ++ "'"

namespace Files

/-- Files after writing, and why writing stopped if it did. What has been written stays. -/
abbrev Written := Option WriteError × Files

/-- Go on unless something has gone wrong. -/
def Written.andThen (written : Written) (next : Files → Written) : Written :=
  match written with
  | (none, files) => next files
  | stopped => stopped

def createDirectory (path : String) (files : Files) : Written :=
  let (error, files) := files.makeDirectories path
  (error.map (WriteError.noDirectory path), files)

/-- Whether a path stays inside of the directory it is seen from. -/
def isContained (path : String) : Bool :=
  !Path.isAbsolute path && !(Path.names path).contains ".."

/-- Write a file of a package, with the directories that hold it. -/
def writeFile (directory path text : String) (files : Files) : Written :=
  if !isContained path then (some (.outside path directory), files)
  else
    let target := Path.join directory path
    let held : Written := match Path.parent? target with
      | some parent => files.createDirectory parent
      | none => (none, files)
    held.andThen fun files =>
      match files.write target text with
      | .ok files => (none, files)
      | .error error => (some (.noFile target error), files)

/-- Write a package: first its directories, then its files. -/
def writeProject (directory : String) (layout : Layout) (project : Project) (files : Files) :
    Written :=
  let created : Written := layout.directories.foldl
    (fun written name => written.andThen (createDirectory (Path.join directory name)))
    (none, files)
  project.files.foldl
    (fun written (path, text) => written.andThen (writeFile directory path text)) created

end Files

namespace Command

/-- The lines on a package that has been written. -/
def packageLines (language directory : String) (outcome : Outcome) : List String :=
  ((if outcome.isOk then "✓ " else "✗ ") ++ language ++ " " ++ toString outcome.project.size
      ++ " file(s) → " ++ directory)
    :: outcome.project.files.map fun (path, _) => "  → " ++ path

/-- Generate the package of one target into a directory. -/
def generatePackage (target : Target) (api : Api) (types : Types) (directory : String)
    (execution : Execution) : Bool × Execution :=
  let outcome := target.renderProject api (some types)
  let (error, files) := execution.files.writeProject directory target.layout outcome.project
  let execution := { execution with files }
  match error with
  | some error => (false, execution.complainError (target.language ++ ": " ++ error.message))
  | none =>
    let execution := outcome.errors.foldl
      (fun execution error => execution.complainError error.message) execution
    (outcome.isOk, execution.printAll (packageLines target.language directory outcome))

/-- Generate the package of a language below the output directory. -/
def generateLanguage (catalog : Catalog) (api : Api) (types : Types) (output language : String)
    (execution : Execution) : Bool × Execution :=
  match catalog.resolve language with
  | .error error => (false, execution.complainError error.message)
  | .ok target => generatePackage target api types (Path.join output language) execution

/-- Generate one language after the other, and count the failures. -/
def generateLanguages (catalog : Catalog) (api : Api) (types : Types) (output : String) :
    List String → Nat → Execution → Nat × Execution
  | [], failed, execution => (failed, execution)
  | language :: rest, failed, execution =>
    let (ok, execution) := generateLanguage catalog api types output language execution
    generateLanguages catalog api types output rest (if ok then failed else failed + 1) execution

/-- Load the models. Without type definitions there are no types, but still a types file. -/
def loadModels (files : Files) (settings : Settings) :
    Except ModelError (Api × Types × Report) := do
  let (api, report) ← loadApi files settings.api
  match settings.types with
  | none => return (api, { package := api.package }, report)
  | some path =>
    let (types, typesReport) ← loadTypes files path
    return (api, types, report.merge typesReport)

/-- The requested languages, or all. -/
def requestedLanguages (catalog : Catalog) (settings : Settings) : List String :=
  if settings.languages.isEmpty then catalog.names else settings.languages

/-- Generate all requested languages from models without errors. -/
def generateModels (settings : Settings) (api : Api) (types : Types) (execution : Execution) :
    Bool × Execution :=
  match Catalog.ofBuiltins settings.sdk with
  | .error error => (false, execution.complainError error.message)
  | .ok catalog =>
    let languages := requestedLanguages catalog settings
    let (failed, execution) :=
      generateLanguages catalog api types settings.output languages 0 execution
    let count := toString languages.length
    let summary :=
      if failed = 0 then "✓ Generated " ++ count ++ " language(s) → " ++ settings.output
      else "✗ " ++ toString failed ++ " of " ++ count ++ " language(s) failed"
    (failed = 0, execution.printAll ["", summary])

/-- Carry out a generator run with known settings. -/
def generateWith (settings : Settings) (execution : Execution) : Bool × Execution :=
  let execution := execution.print ("Generating SDKs from " ++ settings.api)
  match loadModels execution.files settings with
  | .error error => (false, execution.complainError error.message)
  | .ok (api, types, report) =>
    let execution := execution.printAll report.lines
    let errors := report.count .error
    if errors = 0 then generateModels settings api types execution
    else
      (false, execution.complain
        ("✗ " ++ toString errors ++ " validation error(s), fix them before generating"))

/-- The settings of a run. -/
def settingsOf (files : Files) (settingsFile : Option String) (overrides : Overrides) :
    Except SettingsError Settings := do
  let file ← (SettingsFile.discover files settingsFile).mapError SettingsError.file
  Settings.resolve file overrides

/-- Carry out a generator run. -/
def generatePackages (settingsFile : Option String) (overrides : Overrides) (execution : Execution) :
    Bool × Execution :=
  match settingsOf execution.files settingsFile overrides with
  | .error error => (false, execution.complainError error.message)
  | .ok settings => generateWith settings execution

end Command

end ClientGen
