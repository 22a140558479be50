import ClientGen.Files.Basic
import ClientGen.Json.Typed

/-! # Settings files

What a settings file can say about a generator run. Its paths are seen from the directory that
holds the file.
-/

namespace ClientGen

/-- The content of a settings file. Everything may be left out. -/
structure SettingsFile where
  api : Option String := none
  types : Option String := none
  output : Option String := none
  languages : List String := []
  sdkName : Option String := none
  version : Option String := none
  description : Option String := none
  deriving Repr, DecidableEq, Inhabited

/-- Why there are no settings from a file. -/
inductive SettingsFileError where
  | unreadable (path : String) (error : FileError)
  | malformed (path : String) (error : Json.ReadError)
  deriving Repr, DecidableEq

def SettingsFileError.message : SettingsFileError → String
  | .unreadable path error => "Failed to read config '" ++ path ++ "': " ++ error.message
  | .malformed path error => "Failed to parse config '" ++ path ++ "': " ++ error.message

namespace SettingsFile

open Json (Cursor ReadError)

/-- The file that is read when no other is named. -/
def defaultPath : String := "sdkgen.config.json"

/-- The names of the fields, in the order of a list that stands for the file. -/
def fieldNames : List String :=
  ["api", "types", "output", "languages", "sdkName", "version", "description"]

/-- Set a field that is a path or another text. -/
def set (name : String) (value : Option String) (file : SettingsFile) : SettingsFile :=
  if name = "api" then { file with api := value }
  else if name = "types" then { file with types := value }
  else if name = "output" then { file with output := value }
  else if name = "sdkName" then { file with sdkName := value }
  else if name = "version" then { file with version := value }
  else if name = "description" then { file with description := value }
  else file

def isPath (name : String) : Bool :=
  ["api", "types", "output"].contains name

def readField (name : String) (file : SettingsFile) (cursor : Cursor) :
    Except ReadError (SettingsFile × Cursor) := do
  if name = "languages" then
    let (languages, cursor) ← Json.readList (Json.readStringAs "a string") cursor
    return ({ file with languages }, cursor)
  else
    let expected := if isPath name then "path string" else "a string"
    let (value, cursor) ← Json.readOptional (Json.readStringAs expected) cursor
    return (file.set name value, cursor)

/-- The settings that a text holds. -/
def parse (text : String) : Except ReadError SettingsFile :=
  Json.parseWith
    (Json.readRecord "GeneratorConfig" fieldNames ["languages"] readField {}) text

/-- The settings with their paths seen from where `base` is seen. -/
def seenFrom (base : String) (file : SettingsFile) : SettingsFile :=
  { file with
    api := file.api.map (Path.join base)
    types := file.types.map (Path.join base)
    output := file.output.map (Path.join base) }

/-- Read a settings file. -/
def load (files : Files) (path : String) : Except SettingsFileError SettingsFile := do
  let text ← (files.readText path).mapError (SettingsFileError.unreadable path)
  let file ← (parse text).mapError (SettingsFileError.malformed path)
  return file.seenFrom ((Path.parent? path).getD "")

/-- Read the named file. When none is named, a file in the working directory counts if there is
    one. -/
def discover (files : Files) (path : Option String) : Except SettingsFileError SettingsFile :=
  match path with
  | some path => load files path
  | none => if files.isFile defaultPath then load files defaultPath else .ok {}

end SettingsFile

end ClientGen
