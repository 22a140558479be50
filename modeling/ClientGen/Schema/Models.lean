import ClientGen.Json.Basic

/-! # Schemas of the described models

The form of a described API and of described types, as JSON schemas.
-/

namespace ClientGen.Schema

/-- The form of a described API. -/
def apiSchema : Json :=
  .obj [
    ("$schema", .str "http://json-schema.org/draft-07/schema#"),
    ("definitions", .obj [
      ("ApiVersion", .obj [
        ("description", .str "API generation targeted by a client."),
        ("enum", .arr [.str "v2", .str "v3", .str "both"]),
        ("type", .str "string")]),
      ("MethodDescriptor", .obj [
        ("description", .str "A single remote method."),
        ("properties", .obj [
          ("description", .obj [
            ("default", .null),
            ("description", .str "Human-readable description carried into doc comments"),
            ("type", .arr [.str "string", .str "null"])]),
          ("name", .obj [
            ("description", .str "Method name as exposed on the wire (e.g., \"GetBalance\")"),
            ("type", .str "string")]),
          ("params", .obj [
            ("default", .arr []),
            ("description", .str "Ordered parameter list"),
            ("items", .obj [("$ref", .str "#/definitions/ParamDescriptor")]),
            ("type", .str "array")]),
          ("returns", .obj [
            ("default", .null),
            ("description", .str "Source type name of the result, if the method returns one"),
            ("type", .arr [.str "string", .str "null"])]),
          ("subPackage", .obj [
            ("default", .str ""),
            ("description", .str "Owning sub-package / namespace"),
            ("type", .str "string")]),
          ("version", .obj [
            ("default", .str ""),
            ("description", .str "Version tag (\"v2\", \"v3\", or empty for legacy)"),
            ("type", .str "string")])]),
        ("required", .arr [.str "name"]),
        ("type", .str "object")]),
      ("ParamDescriptor", .obj [
        ("description", .str "A method parameter."),
        ("properties", .obj [
          ("name", .obj [("type", .str "string")]),
          ("type", .obj [
            ("description", .str "Source type name, resolved per target language at emission time"),
            ("type", .str "string")])]),
        ("required", .arr [.str "name", .str "type"]),
        ("type", .str "object")])]),
    ("description", .str "API surface rendered into a client; the root of the client model."),
    ("properties", .obj [
      ("apiPath", .obj [
        ("default", .str ""),
        ("description", .str "Path the API is served under (e.g., \"/v3\")"),
        ("type", .str "string")]),
      ("apiVersion", .obj [
        ("allOf", .arr [.obj [("$ref", .str "#/definitions/ApiVersion")]]),
        ("default", .str "v3"),
        ("description", .str "Which API generation the client targets")]),
      ("methods", .obj [
        ("default", .arr []),
        ("description", .str "Methods in declaration order; order is preserved in the emitted client"),
        ("items", .obj [("$ref", .str "#/definitions/MethodDescriptor")]),
        ("type", .str "array")]),
      ("moduleName", .obj [
        ("default", .null),
        ("description", .str "Language-specific module name override"),
        ("type", .arr [.str "string", .str "null"])]),
      ("package", .obj [
        ("description", .str "Package identifier of the service definition (e.g., \"gitlab.com/acme/ledger\")"),
        ("type", .str "string")]),
      ("packageName", .obj [
        ("default", .null),
        ("description", .str "Language-specific package name override"),
        ("type", .arr [.str "string", .str "null"])])]),
    ("required", .arr [.str "package"]),
    ("title", .str "ApiDescriptor"),
    ("type", .str "object")]

/-- The form of described types. -/
def typesSchema : Json :=
  .obj [
    ("$schema", .str "http://json-schema.org/draft-07/schema#"),
    ("definitions", .obj [
      ("EnumDescriptor", .obj [
        ("description", .str "An enumeration and its members, in declaration order."),
        ("properties", .obj [
          ("name", .obj [("type", .str "string")]),
          ("values", .obj [
            ("default", .arr []),
            ("items", .obj [("$ref", .str "#/definitions/EnumValue")]),
            ("type", .str "array")])]),
        ("required", .arr [.str "name"]),
        ("type", .str "object")]),
      ("EnumScalar", .obj [
        ("anyOf", .arr [
          .obj [("format", .str "int64"), ("type", .str "integer")],
          .obj [
            ("format", .str "uint64"),
            ("minimum", .float 0.0),
            ("type", .str "integer")],
          .obj [("format", .str "double"), ("type", .str "number")],
          .obj [("type", .str "string")]]),
        ("description", .str "Opaque enum member value, carried through to the output unchanged.")]),
      ("EnumValue", .obj [
        ("properties", .obj [
          ("name", .obj [("type", .str "string")]),
          ("value", .obj [("$ref", .str "#/definitions/EnumScalar")])]),
        ("required", .arr [.str "name", .str "value"]),
        ("type", .str "object")]),
      ("FieldDescriptor", .obj [
        ("description", .str "A field of a record type.\n\nThe type is kept as the source type name; backends map it when rendering."),
        ("properties", .obj [
          ("list", .obj [("default", .bool false), ("type", .str "boolean")]),
          ("name", .obj [("type", .str "string")]),
          ("optional", .obj [("default", .bool false), ("type", .str "boolean")]),
          ("type", .obj [("type", .str "string")])]),
        ("required", .arr [.str "name", .str "type"]),
        ("type", .str "object")]),
      ("TypeDescriptor", .obj [
        ("description", .str "A record type."),
        ("properties", .obj [
          ("fields", .obj [
            ("default", .arr []),
            ("items", .obj [("$ref", .str "#/definitions/FieldDescriptor")]),
            ("type", .str "array")]),
          ("name", .obj [("type", .str "string")])]),
        ("required", .arr [.str "name"]),
        ("type", .str "object")])]),
    ("description", .str "Type definitions rendered into a types file."),
    ("properties", .obj [
      ("enums", .obj [
        ("default", .arr []),
        ("items", .obj [("$ref", .str "#/definitions/EnumDescriptor")]),
        ("type", .str "array")]),
      ("package", .obj [("type", .str "string")]),
      ("types", .obj [
        ("default", .arr []),
        ("items", .obj [("$ref", .str "#/definitions/TypeDescriptor")]),
        ("type", .str "array")])]),
    ("required", .arr [.str "package"]),
    ("title", .str "TypesDescriptor"),
    ("type", .str "object")]

end ClientGen.Schema
