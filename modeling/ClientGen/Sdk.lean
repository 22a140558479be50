import ClientGen.Json.Decode
import ClientGen.Naming
import ClientGen.Semver

/-! # The generated package

How a generated package names and versions itself, and which names and versions are usable.
-/

namespace ClientGen

/-- Name, version and one-line description of a generated package. -/
structure Sdk where
  name : String := "api"
  version : String := "0.1.0"
  description : String := ""
  deriving Repr, DecidableEq, Inhabited

namespace Sdk

/-- The name as an identifier and a single path element. -/
def packageName (sdk : Sdk) : String :=
  Naming.lastElement
    (String.ofList ((Naming.snakeCase sdk.name).toList.map fun c => if c = '-' then '_' else c))

/-- What makes name or version unusable. -/
inductive Fault where
  | emptyName
  | noPackageName (name package : String)
  | badVersion (version : String) (fault : Semver.Fault)
  deriving Repr, DecidableEq

def Fault.message : Fault → String
  | .emptyName => "sdk name must not be empty"
  | .noPackageName name package =>
    "sdk name '" ++ name ++ "' does not yield a package name (got '" ++ package
      ++ "'); use letters, digits, '-' or '_'"
  | .badVersion version fault =>
    "version '" ++ version ++ "' is not semver: " ++ fault.message

/-- Whether a character may stand in a package name. -/
def isPackageChar (c : Char) : Bool :=
  c.isLower || c.isDigit || c = '_'

/-- Whether a name is usable as a package name: lower-case ASCII letters, digits and
    underscores, and not underscores only. -/
def isPackageName (name : String) : Bool :=
  name.toList.any (·.isAlphanum) && name.toList.all isPackageChar

/-- Check the name, then the version. -/
def check (sdk : Sdk) : Except Fault Unit :=
  if sdk.name.toList.all Text.isBlank then .error .emptyName
  else if !isPackageName sdk.packageName then
    .error (.noPackageName sdk.name sdk.packageName)
  else
    match Semver.check sdk.version with
    | .ok _ => .ok ()
    | .error fault => .error (.badVersion sdk.version fault)

open Json

def ofFields (fields : List (String × Json)) : Except DecodeError Sdk := do
  let description ← fieldOf fields "description" decodeString
  let name ← fieldOf fields "sdkName" decodeString
  let version ← fieldOf fields "version" decodeString
  let default : Sdk := {}
  return {
    name := name.getD default.name, version := version.getD default.version,
    description := description.getD default.description }

def ofItems (items : List Json) : Except DecodeError Sdk := do
  let default : Sdk := {}
  let name ← itemOr items 0 default.name decodeString
  let version ← itemOr items 1 default.version decodeString
  let description ← itemOr items 2 default.description decodeString
  noMoreItems items 3
  return { name, version, description }

def decode : Json → Except DecodeError Sdk :=
  decodeRecord "BackendConfig" ofFields ofItems

def toJson (sdk : Sdk) : Json :=
  object [
    ("sdkName", .str sdk.name), ("version", .str sdk.version),
    ("description", .str sdk.description)]

/-- What a package manifest says. -/
def manifest (sdk : Sdk) : Json :=
  object [
    ("name", .str sdk.name), ("package", .str sdk.packageName), ("version", .str sdk.version),
    ("description", .str sdk.description)]

end Sdk

end ClientGen
