import ClientGen.Model.Api
import ClientGen.Model.Report
import ClientGen.Model.Types
import ClientGen.Text.Case

/-! # Checks of a described model

Required names, names that occur twice, and version tags that are not known. A check goes through a
model once and adds what it finds to a report that has no findings at first. Along each list of
names it keeps where it has met a name for the first time.
-/

namespace ClientGen.Check

def missing (file path message : String) : Finding :=
  { code := Finding.missingField, severity := .error, message, file, path }

def duplicate (file path message suggestion : String) : Finding :=
  { code := Finding.duplicateSymbol, severity := .error, message, file, path,
    suggestion := some suggestion }

/-- The path of an entry of a list. -/
def entryPath (list : String) (index : Nat) : String :=
  list ++ "[" ++ toString index ++ "]"

/-- The names that have been met in a list, each with the index where it has been met first. -/
abbrev Seen := List (String × Nat)

/-- Look at the name at `index` of a list. A name that is empty or has been met is not kept. -/
def checkName (kind file list : String) (index : Nat) (name : String) (report : Report)
    (seen : Seen) : Report × Seen :=
  let path := entryPath list index ++ ".name"
  if name.isEmpty then
    (report.push (missing file path (kind ++ " name is required")), seen)
  else
    match seen.lookup name with
    | some first =>
      (report.push (duplicate file path
        (kind ++ " '" ++ name ++ "' is declared more than once (first at "
          ++ entryPath list first ++ ")")
        ("Rename or remove the duplicate " ++ Text.lowercase kind)), seen)
    | none => (report, seen ++ [(name, index)])

/-- Version tags that a method may have; the empty one marks a method of old. -/
def knownVersions : List String := ["", "v2", "v3"]

def checkVersion (file path : String) (method : Method) (report : Report) : Report :=
  if knownVersions.contains method.version then report
  else
    report.push
      { code := Finding.unknownVersion, severity := .warning,
        message := "Method '" ++ method.name ++ "' has unknown version tag '"
          ++ method.version ++ "'",
        file, path := path ++ ".version",
        suggestion := some "Use \"v2\", \"v3\", or leave empty" }

def checkParam (file path : String) (method : Method) (report : Report) :
    Param × Nat → Report
  | (param, index) =>
    if param.name.isEmpty || param.typeName.isEmpty then
      report.push (missing file (entryPath (path ++ ".params") index)
        ("Parameter " ++ toString index ++ " of method '" ++ method.name
          ++ "' needs a name and a type"))
    else report

def checkMethod (file : String) : Report × Seen → Method × Nat → Report × Seen
  | (report, seen), (method, index) =>
    let path := entryPath "$.methods" index
    let (report, seen) := checkName "Method" file "$.methods" index method.name report seen
    let report := checkVersion file path method report
    (method.params.zipIdx.foldl (checkParam file path method) report, seen)

def checkPackage (file package : String) (report : Report) : Report :=
  if package.isEmpty then
    report.push { missing file "$.package" "API package is required" with
      suggestion := some "Add a 'package' identifier (e.g., \"ledger\")" }
  else report

/-- The report on an API. -/
def api (api : Api) (file : String) : Report :=
  let report := checkPackage file api.package {}
  (api.methods.zipIdx.foldl (checkMethod file) (report, [])).1

def checkType (file path owner : String) (field : Field) (report : Report) : Report :=
  if field.typeName.isEmpty then
    report.push (missing file (path ++ ".type")
      ("Field '" ++ field.name ++ "' of type '" ++ owner ++ "' has no type"))
  else report

def checkField (file path owner : String) : Report × Seen → Field × Nat → Report × Seen
  | (report, seen), (field, index) =>
    let list := path ++ ".fields"
    let (report, seen) := checkName "Field" file list index field.name report seen
    (checkType file (entryPath list index) owner field report, seen)

def checkRecord (file : String) : Report × Seen → RecordType × Nat → Report × Seen
  | (report, seen), (record, index) =>
    let (report, seen) := checkName "Type" file "$.types" index record.name report seen
    let check := checkField file (entryPath "$.types" index) record.name
    ((record.fields.zipIdx.foldl check (report, [])).1, seen)

def checkMember (file list : String) : Report × Seen → Member × Nat → Report × Seen
  | (report, seen), (member, index) =>
    checkName "Enum member" file list index member.name report seen

def checkEnum (file : String) : Report × Seen → EnumType × Nat → Report × Seen
  | (report, seen), (enum, index) =>
    let (report, seen) := checkName "Enum" file "$.enums" index enum.name report seen
    let check := checkMember file (entryPath "$.enums" index ++ ".values")
    ((enum.values.zipIdx.foldl check (report, [])).1, seen)

/-- The report on described types: the records first, then the enumerations. -/
def types (types : Types) (file : String) : Report :=
  let (report, _) := types.types.zipIdx.foldl (checkRecord file) ({}, [])
  (types.enums.zipIdx.foldl (checkEnum file) (report, [])).1

end ClientGen.Check
