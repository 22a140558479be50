import ClientGen.Settings.File
import ClientGen.Target.Basic

/-! # Settings of a generator run

What the command line says hides what the settings file says, and what neither says has a default.
-/

namespace ClientGen

/-- What the command line says. Without languages it says nothing about them. -/
structure Overrides where
  api : Option String := none
  types : Option String := none
  output : Option String := none
  languages : List String := []
  sdkName : Option String := none
  version : Option String := none
  deriving Repr, DecidableEq, Inhabited

/-- All that a run needs to know. -/
structure Settings where
  api : String
  types : Option String
  output : String
  /-- The languages to generate; none means all. -/
  languages : List String
  sdk : Sdk
  deriving Repr, DecidableEq, Inhabited

/-- Why there are no settings. -/
inductive SettingsError where
  | file (error : SettingsFileError)
  | noApi
  | badSdk (error : GenerationError)
  deriving Repr, DecidableEq

def SettingsError.message : SettingsError → String
  | .file error => error.message
  | .noApi =>
    "No API description given (use --api or set \"api\" in " ++ SettingsFile.defaultPath ++ ")"
  | .badSdk error => error.message

namespace Settings

def defaultOutput : String := "generated"

/-- The generated package as the command line, the file and the defaults describe it. -/
def sdkOf (file : SettingsFile) (overrides : Overrides) : Sdk :=
  let default : Sdk := {}
  { name := (overrides.sdkName <|> file.sdkName).getD default.name
    version := (overrides.version <|> file.version).getD default.version
    description := file.description.getD default.description }

/-- The settings from a file and the command line. -/
def resolve (file : SettingsFile) (overrides : Overrides) : Except SettingsError Settings := do
  match overrides.api <|> file.api with
  | none => .error .noApi
  | some api =>
    let sdk := sdkOf file overrides
    (Target.checkSdk sdk).mapError SettingsError.badSdk
    return {
      api, sdk
      types := overrides.types <|> file.types
      output := (overrides.output <|> file.output).getD defaultOutput
      languages := if overrides.languages.isEmpty then file.languages else overrides.languages }

end Settings

end ClientGen
