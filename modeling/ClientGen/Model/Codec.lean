import ClientGen.Json.Decode
import ClientGen.Model.Api
import ClientGen.Model.Report
import ClientGen.Model.Types

/-! # Models as JSON

Decoding a described model from a JSON value and writing it back. Absent optional parts
have defaults; they are written in full, and absent options as null.
-/

namespace ClientGen

open Json

def versionChoices : List (String × ApiVersion) :=
  [("v2", .v2), ("v3", .v3), ("both", .both)]

def ApiVersion.decode : Json → Except DecodeError ApiVersion :=
  decodeChoice versionChoices

namespace Param

def ofFields (fields : List (String × Json)) : Except DecodeError Param := do
  let name ← fieldOf fields "name" decodeString
  let typeName ← fieldOf fields "type" decodeString
  return { name := ← required "name" name, typeName := ← required "type" typeName }

def ofItems (items : List Json) : Except DecodeError Param := do
  let expected := "struct ParamDescriptor with 2 elements"
  let name ← itemOf items 0 expected decodeString
  let typeName ← itemOf items 1 expected decodeString
  noMoreItems items 2
  return { name, typeName }

def decode : Json → Except DecodeError Param :=
  decodeRecord "ParamDescriptor" ofFields ofItems

def toJson (param : Param) : Json :=
  object [("name", .str param.name), ("type", .str param.typeName)]

end Param

def optionJson : Option String → Json
  | some s => .str s
  | none => .null

namespace Method

def ofFields (fields : List (String × Json)) : Except DecodeError Method := do
  let description ← fieldOf fields "description" (decodeOption decodeString)
  let name ← fieldOf fields "name" decodeString
  let params ← fieldOf fields "params" (decodeList Param.decode)
  let returns ← fieldOf fields "returns" (decodeOption decodeString)
  let subPackage ← fieldOf fields "subPackage" decodeString
  let version ← fieldOf fields "version" decodeString
  return {
    name := ← required "name" name, subPackage := subPackage.getD "",
    version := version.getD "", params := params.getD [],
    returns := returns.getD none, description := description.getD none }

def ofItems (items : List Json) : Except DecodeError Method := do
  let name ← itemOf items 0 "struct MethodDescriptor with 6 elements" decodeString
  let subPackage ← itemOr items 1 "" decodeString
  let version ← itemOr items 2 "" decodeString
  let params ← itemOr items 3 [] (decodeList Param.decode)
  let returns ← itemOr items 4 none (decodeOption decodeString)
  let description ← itemOr items 5 none (decodeOption decodeString)
  noMoreItems items 6
  return { name, subPackage, version, params, returns, description }

def decode : Json → Except DecodeError Method :=
  decodeRecord "MethodDescriptor" ofFields ofItems

def toJson (method : Method) : Json :=
  object [
    ("name", .str method.name), ("subPackage", .str method.subPackage),
    ("version", .str method.version), ("params", .arr (method.params.map Param.toJson)),
    ("returns", optionJson method.returns), ("description", optionJson method.description)]

end Method

namespace Api

def ofFields (fields : List (String × Json)) : Except DecodeError Api := do
  let apiPath ← fieldOf fields "apiPath" decodeString
  let apiVersion ← fieldOf fields "apiVersion" ApiVersion.decode
  let methods ← fieldOf fields "methods" (decodeList Method.decode)
  let moduleName ← fieldOf fields "moduleName" (decodeOption decodeString)
  let package ← fieldOf fields "package" decodeString
  let packageName ← fieldOf fields "packageName" (decodeOption decodeString)
  return {
    package := ← required "package" package, apiPath := apiPath.getD "",
    methods := methods.getD [], apiVersion := apiVersion.getD .v3,
    packageName := packageName.getD none, moduleName := moduleName.getD none }

def ofItems (items : List Json) : Except DecodeError Api := do
  let package ← itemOf items 0 "struct ApiDescriptor with 6 elements" decodeString
  let apiPath ← itemOr items 1 "" decodeString
  let methods ← itemOr items 2 [] (decodeList Method.decode)
  let apiVersion ← itemOr items 3 .v3 ApiVersion.decode
  let packageName ← itemOr items 4 none (decodeOption decodeString)
  let moduleName ← itemOr items 5 none (decodeOption decodeString)
  noMoreItems items 6
  return { package, apiPath, methods, apiVersion, packageName, moduleName }

def decode : Json → Except DecodeError Api :=
  decodeRecord "ApiDescriptor" ofFields ofItems

def toJson (api : Api) : Json :=
  object [
    ("package", .str api.package), ("apiPath", .str api.apiPath),
    ("methods", .arr (api.methods.map Method.toJson)),
    ("apiVersion", .str api.apiVersion.name),
    ("packageName", optionJson api.packageName), ("moduleName", optionJson api.moduleName)]

end Api

namespace Field

def ofFields (fields : List (String × Json)) : Except DecodeError Field := do
  let list ← fieldOf fields "list" decodeBool
  let name ← fieldOf fields "name" decodeString
  let optional ← fieldOf fields "optional" decodeBool
  let typeName ← fieldOf fields "type" decodeString
  return {
    name := ← required "name" name, typeName := ← required "type" typeName,
    optional := optional.getD false, list := list.getD false }

def ofItems (items : List Json) : Except DecodeError Field := do
  let expected := "struct FieldDescriptor with 4 elements"
  let name ← itemOf items 0 expected decodeString
  let typeName ← itemOf items 1 expected decodeString
  let optional ← itemOr items 2 false decodeBool
  let list ← itemOr items 3 false decodeBool
  noMoreItems items 4
  return { name, typeName, optional, list }

def decode : Json → Except DecodeError Field :=
  decodeRecord "FieldDescriptor" ofFields ofItems

def toJson (field : Field) : Json :=
  object [
    ("name", .str field.name), ("type", .str field.typeName),
    ("optional", .bool field.optional), ("list", .bool field.list)]

end Field

namespace RecordType

def ofFields (fields : List (String × Json)) : Except DecodeError RecordType := do
  let members ← fieldOf fields "fields" (decodeList Field.decode)
  let name ← fieldOf fields "name" decodeString
  return { name := ← required "name" name, fields := members.getD [] }

def ofItems (items : List Json) : Except DecodeError RecordType := do
  let name ← itemOf items 0 "struct TypeDescriptor with 2 elements" decodeString
  let fields ← itemOr items 1 [] (decodeList Field.decode)
  noMoreItems items 2
  return { name, fields }

def decode : Json → Except DecodeError RecordType :=
  decodeRecord "TypeDescriptor" ofFields ofItems

def toJson (record : RecordType) : Json :=
  object [("name", .str record.name), ("fields", .arr (record.fields.map Field.toJson))]

end RecordType

namespace Scalar

/-- Largest whole number that is not `unsigned`. -/
def maxSigned : Int := 0x7FFFFFFFFFFFFFFF

def decode : Json → Except DecodeError Scalar
  | .int i => .ok (if i ≤ maxSigned then .integer i else .unsigned i.toNat)
  | .float x => .ok (.float x)
  | .str s => .ok (.text s)
  | _ => .error (.noMatch "EnumScalar")

def toJson : Scalar → Json
  | .integer i => .int i
  | .unsigned n => .int n
  | .float x => .float x
  | .text s => .str s

end Scalar

namespace Member

def ofFields (fields : List (String × Json)) : Except DecodeError Member := do
  let name ← fieldOf fields "name" decodeString
  let value ← fieldOf fields "value" Scalar.decode
  return { name := ← required "name" name, value := ← required "value" value }

def ofItems (items : List Json) : Except DecodeError Member := do
  let expected := "struct EnumValue with 2 elements"
  let name ← itemOf items 0 expected decodeString
  let value ← itemOf items 1 expected Scalar.decode
  noMoreItems items 2
  return { name, value }

def decode : Json → Except DecodeError Member :=
  decodeRecord "EnumValue" ofFields ofItems

def toJson (member : Member) : Json :=
  object [("name", .str member.name), ("value", member.value.toJson)]

end Member

namespace EnumType

def ofFields (fields : List (String × Json)) : Except DecodeError EnumType := do
  let name ← fieldOf fields "name" decodeString
  let values ← fieldOf fields "values" (decodeList Member.decode)
  return { name := ← required "name" name, values := values.getD [] }

def ofItems (items : List Json) : Except DecodeError EnumType := do
  let name ← itemOf items 0 "struct EnumDescriptor with 2 elements" decodeString
  let values ← itemOr items 1 [] (decodeList Member.decode)
  noMoreItems items 2
  return { name, values }

def decode : Json → Except DecodeError EnumType :=
  decodeRecord "EnumDescriptor" ofFields ofItems

def toJson (enum : EnumType) : Json :=
  object [("name", .str enum.name), ("values", .arr (enum.values.map Member.toJson))]

end EnumType

namespace Types

def ofFields (fields : List (String × Json)) : Except DecodeError Types := do
  let enums ← fieldOf fields "enums" (decodeList EnumType.decode)
  let package ← fieldOf fields "package" decodeString
  let types ← fieldOf fields "types" (decodeList RecordType.decode)
  return {
    package := ← required "package" package, types := types.getD [], enums := enums.getD [] }

def ofItems (items : List Json) : Except DecodeError Types := do
  let package ← itemOf items 0 "struct TypesDescriptor with 3 elements" decodeString
  let types ← itemOr items 1 [] (decodeList RecordType.decode)
  let enums ← itemOr items 2 [] (decodeList EnumType.decode)
  noMoreItems items 3
  return { package, types, enums }

def decode : Json → Except DecodeError Types :=
  decodeRecord "TypesDescriptor" ofFields ofItems

def toJson (types : Types) : Json :=
  object [
    ("package", .str types.package), ("types", .arr (types.types.map RecordType.toJson)),
    ("enums", .arr (types.enums.map EnumType.toJson))]

end Types

namespace Finding

def severityChoices : List (String × Severity) :=
  [("error", .error), ("warning", .warning)]

def ofFields (fields : List (String × Json)) : Except DecodeError Finding := do
  let code ← fieldOf fields "code" decodeString
  let file ← fieldOf fields "file" decodeString
  let message ← fieldOf fields "message" decodeString
  let path ← fieldOf fields "path" decodeString
  let severity ← fieldOf fields "severity" (decodeChoice severityChoices)
  let suggestion ← fieldOf fields "suggestion" (decodeOption decodeString)
  return {
    code := ← required "code" code, severity := ← required "severity" severity,
    message := ← required "message" message, file := ← required "file" file,
    path := ← required "path" path, suggestion := suggestion.getD none }

def ofItems (items : List Json) : Except DecodeError Finding := do
  let expected := "struct ErrorEntry with 6 elements"
  let code ← itemOf items 0 expected decodeString
  let severity ← itemOf items 1 expected (decodeChoice severityChoices)
  let message ← itemOf items 2 expected decodeString
  let file ← itemOf items 3 expected decodeString
  let path ← itemOf items 4 expected decodeString
  let suggestion ← itemOf items 5 expected (decodeOption decodeString)
  noMoreItems items 6
  return { code, severity, message, file, path, suggestion }

def decode : Json → Except DecodeError Finding :=
  decodeRecord "ErrorEntry" ofFields ofItems

/-- A suggestion is written only if there is one. -/
def toJson (finding : Finding) : Json :=
  let suggestion := match finding.suggestion with
    | some s => [("suggestion", Json.str s)]
    | none => []
  object ([
    ("code", .str finding.code), ("severity", .str finding.severity.name),
    ("message", .str finding.message), ("file", .str finding.file),
    ("path", .str finding.path)] ++ suggestion)

end Finding

namespace Report

def ofFields (fields : List (String × Json)) : Except DecodeError Report := do
  let findings ← fieldOf fields "errors" (decodeList Finding.decode)
  let ok ← fieldOf fields "ok" decodeBool
  return { ok := ← required "ok" ok, findings := ← required "errors" findings }

def ofItems (items : List Json) : Except DecodeError Report := do
  let expected := "struct ValidationReport with 2 elements"
  let ok ← itemOf items 0 expected decodeBool
  let findings ← itemOf items 1 expected (decodeList Finding.decode)
  noMoreItems items 2
  return { ok, findings }

def decode : Json → Except DecodeError Report :=
  decodeRecord "ValidationReport" ofFields ofItems

def toJson (report : Report) : Json :=
  object [("ok", .bool report.ok), ("errors", .arr (report.findings.map Finding.toJson))]

end Report

end ClientGen
