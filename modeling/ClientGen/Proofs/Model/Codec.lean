import ClientGen.Model.Codec
import ClientGen.Proofs.Json.Fields

/-! # Writing models and reading them back

A codec is lawful if what it writes is read back as it was. This holds of all that has been
decoded, but not of every model: a whole number that is `unsigned` has to be above the signed
range, or else it would be read back as signed. The codecs of models are made of those of their
parts, record by record.
-/

namespace ClientGen

open Json

variable {α : Type}

/-- How the values of a type are written as JSON and read from it. -/
structure Codec (α : Type) where
  decode : Json → Except DecodeError α
  encode : α → Json
  /-- What is known of a value that has been decoded. -/
  Decoded : α → Prop := fun _ => True

namespace Codec

structure Lawful (codec : Codec α) : Prop where
  decoded {value x} : codec.decode value = .ok x → codec.Decoded x
  decode_encode {x} : codec.Decoded x → codec.decode (codec.encode x) = .ok x

def string : Codec String where
  decode := decodeString
  encode := .str

def bool : Codec Bool where
  decode := decodeBool
  encode := .bool

def optionalString : Codec (Option String) where
  decode := decodeOption decodeString
  encode := optionJson

def list (codec : Codec α) : Codec (List α) where
  decode := decodeList codec.decode
  encode xs := .arr (xs.map codec.encode)
  Decoded xs := ∀ x ∈ xs, codec.Decoded x

theorem string_lawful : string.Lawful := ⟨fun _ => trivial, fun _ => rfl⟩

theorem bool_lawful : bool.Lawful := ⟨fun _ => trivial, fun _ => rfl⟩

theorem optionalString_lawful : optionalString.Lawful where
  decoded _ := trivial
  decode_encode {x} _ := by cases x <;> rfl

section Lists

variable {codec : Codec α}

theorem exists_of_mem_decodeItems {items : List Json} {xs : List α}
    (h : decodeItems codec.decode items = .ok xs) {x : α} (mem : x ∈ xs) :
    ∃ item, codec.decode item = .ok x := by
  induction items generalizing xs with
  | nil =>
      cases h
      cases mem
  | cons item rest ih =>
      obtain ⟨y, first, h⟩ := bind_eq_ok.mp h
      obtain ⟨ys, others, h⟩ := bind_eq_ok.mp h
      cases h
      cases mem with
      | head => exact ⟨item, first⟩
      | tail _ mem => exact ih others mem

theorem decodeItems_map_encode {xs : List α}
    (each : ∀ x ∈ xs, codec.decode (codec.encode x) = .ok x) :
    decodeItems codec.decode (xs.map codec.encode) = .ok xs := by
  induction xs with
  | nil => rfl
  | cons x rest ih =>
      exact bind_ok (each x (.head _)) <| bind_ok (ih fun x mem => each x (.tail _ mem)) rfl

theorem Lawful.list (h : codec.Lawful) : codec.list.Lawful where
  decoded {value xs} decoded x mem := by
    cases value with
    | arr items =>
        obtain ⟨item, decoded⟩ := exists_of_mem_decodeItems decoded mem
        exact h.decoded decoded
    | _ => cases decoded
  decode_encode known := decodeItems_map_encode fun x mem => h.decode_encode (known x mem)

end Lists

theorem Lawful.decoded_getD {codec : Codec α} (h : codec.list.Lawful)
    {fields : List (String × Json)} {name : String} {xs : Option (List α)}
    (found : fieldOf fields name codec.list.decode = .ok xs) :
    ∀ x ∈ xs.getD [], codec.Decoded x := by
  cases xs with
  | none => exact nofun
  | some xs =>
      obtain ⟨_, source⟩ := fieldOf_eq_some found
      exact h.decoded source

theorem Lawful.decoded_itemOr {codec : Codec α} (h : codec.list.Lawful) {items : List Json}
    {index : Nat} {xs : List α} (found : itemOr items index [] codec.list.decode = .ok xs) :
    ∀ x ∈ xs, codec.Decoded x := by
  obtain rfl | ⟨_, source⟩ := itemOr_eq_ok found
  · exact nofun
  · exact h.decoded source

theorem Lawful.fieldOf_eq {codec : Codec α} (h : codec.Lawful) {fields : List (String × Json)}
    {name : String} {x : α} (written : fields.lookup name = some (codec.encode x))
    (known : codec.Decoded x) : fieldOf fields name codec.decode = .ok (some x) := by
  simp only [fieldOf, written, h.decode_encode known]
  rfl

end Codec

open Codec

/-- A string of a fixed choice. -/
def ApiVersion.codec : Codec ApiVersion where
  decode := ApiVersion.decode
  encode version := .str version.name

theorem ApiVersion.lawful : codec.Lawful where
  decoded _ := trivial
  decode_encode {version} _ := by cases version <;> rfl

namespace Param

def codec : Codec Param where
  decode := decode
  encode := toJson

theorem encode_eq_obj (param : Param) :
    ∃ fields, codec.encode param = .obj fields ∧
      fields.lookup "name" = some (.str param.name) ∧
      fields.lookup "type" = some (.str param.typeName) :=
  ⟨_, rfl, lookup_sortFields _ _, lookup_sortFields _ _⟩

theorem lawful : codec.Lawful where
  decoded _ := trivial
  decode_encode {param} _ := by
    obtain ⟨fields, written, name, type⟩ := encode_eq_obj param
    rw [written]
    exact bind_ok (string_lawful.fieldOf_eq name trivial) <|
      bind_ok (string_lawful.fieldOf_eq type trivial) rfl

end Param

namespace Method

def codec : Codec Method where
  decode := decode
  encode := toJson

theorem encode_eq_obj (method : Method) :
    ∃ fields, codec.encode method = .obj fields ∧
      fields.lookup "name" = some (.str method.name) ∧
      fields.lookup "subPackage" = some (.str method.subPackage) ∧
      fields.lookup "version" = some (.str method.version) ∧
      fields.lookup "params" = some (Param.codec.list.encode method.params) ∧
      fields.lookup "returns" = some (optionJson method.returns) ∧
      fields.lookup "description" = some (optionJson method.description) :=
  ⟨_, rfl, lookup_sortFields _ _, lookup_sortFields _ _, lookup_sortFields _ _,
    lookup_sortFields _ _, lookup_sortFields _ _, lookup_sortFields _ _⟩

theorem lawful : codec.Lawful where
  decoded _ := trivial
  decode_encode {method} _ := by
    obtain ⟨fields, written, name, subPackage, version, params, returns, description⟩ :=
      encode_eq_obj method
    rw [written]
    exact bind_ok (optionalString_lawful.fieldOf_eq description trivial) <|
      bind_ok (string_lawful.fieldOf_eq name trivial) <|
      bind_ok (Param.lawful.list.fieldOf_eq params fun _ _ => trivial) <|
      bind_ok (optionalString_lawful.fieldOf_eq returns trivial) <|
      bind_ok (string_lawful.fieldOf_eq subPackage trivial) <|
      bind_ok (string_lawful.fieldOf_eq version trivial) rfl

end Method

namespace Api

def codec : Codec Api where
  decode := decode
  encode := toJson

theorem encode_eq_obj (api : Api) :
    ∃ fields, codec.encode api = .obj fields ∧
      fields.lookup "package" = some (.str api.package) ∧
      fields.lookup "apiPath" = some (.str api.apiPath) ∧
      fields.lookup "methods" = some (Method.codec.list.encode api.methods) ∧
      fields.lookup "apiVersion" = some (ApiVersion.codec.encode api.apiVersion) ∧
      fields.lookup "packageName" = some (optionJson api.packageName) ∧
      fields.lookup "moduleName" = some (optionJson api.moduleName) :=
  ⟨_, rfl, lookup_sortFields _ _, lookup_sortFields _ _, lookup_sortFields _ _,
    lookup_sortFields _ _, lookup_sortFields _ _, lookup_sortFields _ _⟩

theorem lawful : codec.Lawful where
  decoded _ := trivial
  decode_encode {api} _ := by
    obtain ⟨fields, written, package, apiPath, methods, apiVersion, packageName, moduleName⟩ :=
      encode_eq_obj api
    rw [written]
    exact bind_ok (string_lawful.fieldOf_eq apiPath trivial) <|
      bind_ok (ApiVersion.lawful.fieldOf_eq apiVersion trivial) <|
      bind_ok (Method.lawful.list.fieldOf_eq methods fun _ _ => trivial) <|
      bind_ok (optionalString_lawful.fieldOf_eq moduleName trivial) <|
      bind_ok (string_lawful.fieldOf_eq package trivial) <|
      bind_ok (optionalString_lawful.fieldOf_eq packageName trivial) rfl

end Api

namespace Field

def codec : Codec Field where
  decode := decode
  encode := toJson

theorem encode_eq_obj (field : Field) :
    ∃ fields, codec.encode field = .obj fields ∧
      fields.lookup "name" = some (.str field.name) ∧
      fields.lookup "type" = some (.str field.typeName) ∧
      fields.lookup "optional" = some (.bool field.optional) ∧
      fields.lookup "list" = some (.bool field.list) :=
  ⟨_, rfl, lookup_sortFields _ _, lookup_sortFields _ _, lookup_sortFields _ _,
    lookup_sortFields _ _⟩

theorem lawful : codec.Lawful where
  decoded _ := trivial
  decode_encode {field} _ := by
    obtain ⟨fields, written, name, type, optional, list⟩ := encode_eq_obj field
    rw [written]
    exact bind_ok (bool_lawful.fieldOf_eq list trivial) <|
      bind_ok (string_lawful.fieldOf_eq name trivial) <|
      bind_ok (bool_lawful.fieldOf_eq optional trivial) <|
      bind_ok (string_lawful.fieldOf_eq type trivial) rfl

end Field

namespace RecordType

def codec : Codec RecordType where
  decode := decode
  encode := toJson

theorem encode_eq_obj (record : RecordType) :
    ∃ fields, codec.encode record = .obj fields ∧
      fields.lookup "name" = some (.str record.name) ∧
      fields.lookup "fields" = some (Field.codec.list.encode record.fields) :=
  ⟨_, rfl, lookup_sortFields _ _, lookup_sortFields _ _⟩

theorem lawful : codec.Lawful where
  decoded _ := trivial
  decode_encode {record} _ := by
    obtain ⟨fields, written, name, members⟩ := encode_eq_obj record
    rw [written]
    exact bind_ok (Field.lawful.list.fieldOf_eq members fun _ _ => trivial) <|
      bind_ok (string_lawful.fieldOf_eq name trivial) rfl

end RecordType

namespace Scalar

/-- A whole number is `unsigned` only above the signed range. -/
def IsCanonical : Scalar → Prop
  | .integer i => i ≤ maxSigned
  | .unsigned n => maxSigned < n
  | .float _ | .text _ => True

def codec : Codec Scalar where
  decode := decode
  encode := toJson
  Decoded := IsCanonical

theorem lawful : codec.Lawful where
  decoded {value scalar} decoded := by
    cases value with
    | int i =>
        cases decoded
        by_cases signed : i ≤ maxSigned
        · rwa [if_pos signed]
        · rw [if_neg signed]
          simp only [codec, IsCanonical, maxSigned] at signed ⊢
          omega
    | float x => cases decoded; trivial
    | str s => cases decoded; trivial
    | null | bool | arr | obj => cases decoded
  decode_encode {scalar} known := by
    cases scalar with
    | integer i => exact congrArg Except.ok (if_pos known)
    | unsigned n => exact congrArg Except.ok (if_neg (Int.not_le.mpr known))
    | float | text => rfl

end Scalar

namespace Member

def codec : Codec Member where
  decode := decode
  encode := toJson
  Decoded member := member.value.IsCanonical

theorem encode_eq_obj (member : Member) :
    ∃ fields, codec.encode member = .obj fields ∧
      fields.lookup "name" = some (.str member.name) ∧
      fields.lookup "value" = some (Scalar.codec.encode member.value) :=
  ⟨_, rfl, lookup_sortFields _ _, lookup_sortFields _ _⟩

theorem lawful : codec.Lawful where
  decoded {value member} decoded := by
    cases value with
    | obj fields =>
        obtain ⟨name, -, decoded⟩ := bind_eq_ok.mp decoded
        obtain ⟨scalar, found, decoded⟩ := bind_eq_ok.mp decoded
        obtain ⟨_, -, decoded⟩ := bind_eq_ok.mp decoded
        obtain ⟨_, given, decoded⟩ := bind_eq_ok.mp decoded
        cases decoded
        cases required_eq_ok.mp given
        obtain ⟨_, source⟩ := fieldOf_eq_some found
        exact Scalar.lawful.decoded source
    | arr items =>
        obtain ⟨name, -, decoded⟩ := bind_eq_ok.mp decoded
        obtain ⟨scalar, found, decoded⟩ := bind_eq_ok.mp decoded
        obtain ⟨_, -, decoded⟩ := bind_eq_ok.mp decoded
        cases decoded
        obtain ⟨_, source⟩ := itemOf_eq_ok found
        exact Scalar.lawful.decoded source
    | _ => cases decoded
  decode_encode {member} known := by
    obtain ⟨fields, written, name, value⟩ := encode_eq_obj member
    rw [written]
    exact bind_ok (string_lawful.fieldOf_eq name trivial) <|
      bind_ok (Scalar.lawful.fieldOf_eq value known) rfl

end Member

namespace EnumType

def codec : Codec EnumType where
  decode := decode
  encode := toJson
  Decoded enum := ∀ member ∈ enum.values, Member.codec.Decoded member

theorem encode_eq_obj (enum : EnumType) :
    ∃ fields, codec.encode enum = .obj fields ∧
      fields.lookup "name" = some (.str enum.name) ∧
      fields.lookup "values" = some (Member.codec.list.encode enum.values) :=
  ⟨_, rfl, lookup_sortFields _ _, lookup_sortFields _ _⟩

theorem lawful : codec.Lawful where
  decoded {value enum} decoded := by
    cases value with
    | obj fields =>
        obtain ⟨name, -, decoded⟩ := bind_eq_ok.mp decoded
        obtain ⟨members, found, decoded⟩ := bind_eq_ok.mp decoded
        obtain ⟨_, -, decoded⟩ := bind_eq_ok.mp decoded
        cases decoded
        exact Member.lawful.list.decoded_getD found
    | arr items =>
        obtain ⟨name, -, decoded⟩ := bind_eq_ok.mp decoded
        obtain ⟨members, found, decoded⟩ := bind_eq_ok.mp decoded
        obtain ⟨_, -, decoded⟩ := bind_eq_ok.mp decoded
        cases decoded
        exact Member.lawful.list.decoded_itemOr found
    | _ => cases decoded
  decode_encode {enum} known := by
    obtain ⟨fields, written, name, values⟩ := encode_eq_obj enum
    rw [written]
    exact bind_ok (string_lawful.fieldOf_eq name trivial) <|
      bind_ok (Member.lawful.list.fieldOf_eq values known) rfl

end EnumType

namespace Types

def codec : Codec Types where
  decode := decode
  encode := toJson
  Decoded types := ∀ enum ∈ types.enums, EnumType.codec.Decoded enum

theorem encode_eq_obj (types : Types) :
    ∃ fields, codec.encode types = .obj fields ∧
      fields.lookup "package" = some (.str types.package) ∧
      fields.lookup "types" = some (RecordType.codec.list.encode types.types) ∧
      fields.lookup "enums" = some (EnumType.codec.list.encode types.enums) :=
  ⟨_, rfl, lookup_sortFields _ _, lookup_sortFields _ _, lookup_sortFields _ _⟩

theorem lawful : codec.Lawful where
  decoded {value types} decoded := by
    cases value with
    | obj fields =>
        obtain ⟨enums, found, decoded⟩ := bind_eq_ok.mp decoded
        obtain ⟨package, -, decoded⟩ := bind_eq_ok.mp decoded
        obtain ⟨records, -, decoded⟩ := bind_eq_ok.mp decoded
        obtain ⟨_, -, decoded⟩ := bind_eq_ok.mp decoded
        cases decoded
        exact EnumType.lawful.list.decoded_getD found
    | arr items =>
        obtain ⟨package, -, decoded⟩ := bind_eq_ok.mp decoded
        obtain ⟨records, -, decoded⟩ := bind_eq_ok.mp decoded
        obtain ⟨enums, found, decoded⟩ := bind_eq_ok.mp decoded
        obtain ⟨_, -, decoded⟩ := bind_eq_ok.mp decoded
        cases decoded
        exact EnumType.lawful.list.decoded_itemOr found
    | _ => cases decoded
  decode_encode {types} known := by
    obtain ⟨fields, written, package, records, enums⟩ := encode_eq_obj types
    rw [written]
    exact bind_ok (EnumType.lawful.list.fieldOf_eq enums known) <|
      bind_ok (string_lawful.fieldOf_eq package trivial) <|
      bind_ok (RecordType.lawful.list.fieldOf_eq records fun _ _ => trivial) rfl

end Types

end ClientGen
