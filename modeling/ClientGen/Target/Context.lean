import ClientGen.Model.Api
import ClientGen.Model.Types
import ClientGen.Sdk
import ClientGen.Template.Value

/-! # What templates see of a model

The described API and types as template values. Maps keep the order in which the parts of a
model are declared.
-/

namespace ClientGen

open Template

def optionValue : Option String → Value
  | some s => .str s
  | none => .none

def Param.toValue (param : Param) : Value :=
  .record [("name", .str param.name), ("type", .str param.typeName)]

def Method.toValue (method : Method) : Value :=
  .record [
    ("name", .str method.name), ("subPackage", .str method.subPackage),
    ("version", .str method.version), ("params", .list (method.params.map Param.toValue)),
    ("returns", optionValue method.returns), ("description", optionValue method.description)]

def Api.toValue (api : Api) : Value :=
  .record [
    ("package", .str api.package), ("apiPath", .str api.apiPath),
    ("methods", .list (api.methods.map Method.toValue)),
    ("apiVersion", .str api.apiVersion.name),
    ("packageName", optionValue api.packageName), ("moduleName", optionValue api.moduleName)]

def Field.toValue (field : Field) : Value :=
  .record [
    ("name", .str field.name), ("type", .str field.typeName),
    ("optional", .bool field.optional), ("list", .bool field.list)]

def RecordType.toValue (type : RecordType) : Value :=
  .record [("name", .str type.name), ("fields", .list (type.fields.map Field.toValue))]

def Scalar.toValue : Scalar → Value
  | .integer i => .int i
  | .unsigned n => .int n
  | .float x => .float x
  | .text s => .str s

def Member.toValue (member : Member) : Value :=
  .record [("name", .str member.name), ("value", member.value.toValue)]

def EnumType.toValue (enum : EnumType) : Value :=
  .record [("name", .str enum.name), ("values", .list (enum.values.map Member.toValue))]

def Types.toValue (types : Types) : Value :=
  .record [
    ("package", .str types.package), ("types", .list (types.types.map RecordType.toValue)),
    ("enums", .list (types.enums.map EnumType.toValue))]

def Sdk.toValue (sdk : Sdk) : Value :=
  .record [
    ("sdkName", .str sdk.name), ("version", .str sdk.version),
    ("description", .str sdk.description)]

namespace Target

/-- What the template of a client sees. -/
def clientContext (api : Api) (sdk : Sdk) : Value :=
  .record [
    ("api", api.toValue), ("packageName", .str api.resolvedPackageName),
    ("moduleName", .str api.resolvedModuleName), ("sdk", sdk.toValue)]

/-- What the template of a types file sees. -/
def typesContext (types : Types) (sdk : Sdk) : Value :=
  .record [("types", types.toValue), ("sdk", sdk.toValue)]

end Target

end ClientGen
