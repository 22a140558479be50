import ClientGen.Proofs.Model.Codec
import ClientGen.Proofs.Schema.Acceptance
import ClientGen.Schema.Models

/-! # The form of models

The schema of a kind of model and its codec describe the same form of JSON values: whatever the
schema accepts can be decoded, and whatever has been decoded is written in a form that the schema
accepts. This is shown record by record, from the innermost one outwards; each reference between
them is one more that a check has to follow.
-/

namespace ClientGen

open Json Schema

variable {α : Type} {follow : String → String → Json → List Violation}

/-- A codec agrees with a schema whose references are followed in some way. -/
structure Codec.Agrees (codec : Codec α) (follow : String → String → Json → List Violation)
    (schema : Schema) : Prop where
  decodes {path value} : check ⟨path, follow⟩ value schema = [] → ∃ x, codec.decode value = .ok x
  accepts {path x} : codec.Decoded x → check ⟨path, follow⟩ (codec.encode x) schema = []

namespace Codec

theorem string_agrees : string.Agrees follow (ofType .string) where
  decodes {path value} accepted := by
    cases value with
    | str s => exact ⟨s, rfl⟩
    | _ => cases check_ofType.mp accepted
  accepts _ := check_ofType.mpr rfl

theorem bool_agrees : bool.Agrees follow (ofType .boolean) where
  decodes {path value} accepted := by
    cases value with
    | bool b => exact ⟨b, rfl⟩
    | _ => cases check_ofType.mp accepted
  accepts _ := check_ofType.mpr rfl

theorem optionalString_agrees : optionalString.Agrees follow Schema.optionalString where
  decodes accepted := by
    obtain rfl | ⟨s, rfl⟩ := check_optionalString.mp accepted
    · exact ⟨none, rfl⟩
    · exact ⟨some s, rfl⟩
  accepts {path x} _ := by
    cases x with
    | none => exact check_optionalString.mpr (.inl rfl)
    | some s => exact check_optionalString.mpr (.inr ⟨s, rfl⟩)

section Parts

variable {codec : Codec α} {schema : Schema} {path name : String} {fields : List (String × Json)}

theorem decodeItems_of_forall {items : List Json}
    (each : ∀ item ∈ items, ∃ x, codec.decode item = .ok x) :
    ∃ xs, decodeItems codec.decode items = .ok xs := by
  induction items with
  | nil => exact ⟨[], rfl⟩
  | cons item rest ih =>
      obtain ⟨x, first⟩ := each item (.head _)
      obtain ⟨xs, others⟩ := ih fun item mem => each item (.tail _ mem)
      exact ⟨x :: xs, bind_ok first <| bind_ok others rfl⟩

/-- A list agrees with the schema of lists if its items agree. -/
theorem Agrees.list (h : codec.Agrees follow schema) :
    codec.list.Agrees follow (listOf schema) where
  decodes accepted := by
    obtain ⟨items, rfl, each⟩ := check_listOf.mp accepted
    refine decodeItems_of_forall fun item mem => ?_
    obtain ⟨i, found⟩ := List.mem_iff_getElem?.mp mem
    exact h.decodes (each i item found)
  accepts {path xs} known := by
    refine check_listOf.mpr ⟨_, rfl, fun i item found => ?_⟩
    obtain ⟨x, mem, rfl⟩ := List.mem_map.mp (List.mem_of_getElem? found)
    exact h.accepts (known x mem)

/-- A codec that agrees with a schema agrees with its name, one reference further away. -/
theorem Agrees.defined {root : Json} {fuel : Nat}
    (h : codec.Agrees (followed .older root fuel) schema)
    (found : (target? root ("#/definitions/" ++ name)).map (ofJson .older) = some schema) :
    codec.Agrees (followed .older root (fuel + 1)) (defined name) := by
  have reached (path : String) (value : Json) :
      check ⟨path, followed .older root (fuel + 1)⟩ value (Schema.defined name)
        = check ⟨path, followed .older root fuel⟩ value schema := by
    obtain ⟨definition, target, rfl⟩ := Option.map_eq_some_iff.mp found
    simp only [check_defined, followed, target]
  exact ⟨fun accepted => h.decodes (reached _ _ ▸ accepted),
    fun known => (reached _ _).trans (h.accepts known)⟩

theorem Agrees.all (h : codec.Agrees follow schema) :
    codec.Agrees follow (.keywords [.all [schema]]) := by
  have same (place : Schema.Place) (value : Json) :
      check place value (.keywords [.all [schema]]) = check place value schema := by
    simp [check, checkKeywords, checkKeyword, checkEach]
  exact ⟨fun accepted => h.decodes (same _ _ ▸ accepted),
    fun known => (same _ _).trans (h.accepts known)⟩

variable {named : List (String × Schema)}

theorem Agrees.field (h : codec.Agrees follow schema) (name : String)
    (accepted : AcceptsFields ⟨path, follow⟩ named fields)
    (listed : named.lookup name = some schema) :
    ∃ x, fieldOf fields name codec.decode = .ok x := by
  unfold fieldOf
  cases found : fields.lookup name with
  | none => exact ⟨none, rfl⟩
  | some field =>
      obtain ⟨x, decoded⟩ := h.decodes (accepted.field listed found)
      exact ⟨some x, by simp only [decoded]; rfl⟩

theorem Agrees.requiredField (h : codec.Agrees follow schema) (name : String)
    (accepted : AcceptsFields ⟨path, follow⟩ named fields)
    (listed : named.lookup name = some schema) (present : (fields.lookup name).isSome = true) :
    ∃ x, fieldOf fields name codec.decode = .ok (some x) := by
  obtain ⟨field, found⟩ := Option.isSome_iff_exists.mp present
  obtain ⟨x, decoded⟩ := h.decodes (accepted.field listed found)
  exact ⟨x, by simp only [fieldOf, found, decoded]; rfl⟩

theorem Agrees.written (h : codec.Agrees follow schema) {x : α}
    (written : fields.lookup name = some (codec.encode x)) (known : codec.Decoded x) :
    ∀ field, fields.lookup name = some field →
      check ((Schema.Place.mk path follow).below name) field schema = [] := by
  intro field found
  cases written.symm.trans found
  exact h.accepts known

end Parts

end Codec

open Codec

namespace ApiVersion

def schema : Schema := oneOf ["v2", "v3", "both"]

theorem agrees : codec.Agrees follow schema where
  decodes accepted := by
    obtain ⟨s, listed, rfl⟩ := check_oneOf.mp accepted
    simp only [List.mem_cons, List.not_mem_nil, or_false] at listed
    obtain rfl | rfl | rfl := listed
    · exact ⟨.v2, rfl⟩
    · exact ⟨.v3, rfl⟩
    · exact ⟨.both, rfl⟩
  accepts {path version} _ := by
    refine check_oneOf.mpr ⟨version.name, ?_, rfl⟩
    cases version <;> decide

end ApiVersion

namespace Param

def schema : Schema :=
  record [("name", ofType .string), ("type", ofType .string)] ["name", "type"]

theorem agrees : codec.Agrees follow schema where
  decodes accepted := by
    obtain ⟨fields, rfl, present, accepted⟩ := check_record.mp accepted
    obtain ⟨name, nameDecoded⟩ :=
      string_agrees.requiredField "name" accepted rfl (present "name" (by decide))
    obtain ⟨type, typeDecoded⟩ :=
      string_agrees.requiredField "type" accepted rfl (present "type" (by decide))
    exact ⟨_, bind_ok nameDecoded <| bind_ok typeDecoded rfl⟩
  accepts {path param} _ := by
    obtain ⟨fields, encoded, name, type⟩ := encode_eq_obj param
    refine check_record.mpr ⟨fields, encoded, ?_, ?_⟩
    · exact List.forall_mem_cons.mpr ⟨Option.isSome_of_eq_some name,
        List.forall_mem_singleton.mpr (Option.isSome_of_eq_some type)⟩
    · simp only [AcceptsFields, List.forall_mem_cons]
      exact ⟨string_agrees.written name trivial, string_agrees.written type trivial,
        List.forall_mem_nil _⟩

end Param

namespace Method

def schema : Schema :=
  record [("description", Schema.optionalString), ("name", ofType .string),
    ("params", listOf (defined "ParamDescriptor")), ("returns", Schema.optionalString),
    ("subPackage", ofType .string), ("version", ofType .string)] ["name"]

theorem agrees (params : Param.codec.Agrees follow (defined "ParamDescriptor")) :
    codec.Agrees follow schema where
  decodes accepted := by
    obtain ⟨fields, rfl, present, accepted⟩ := check_record.mp accepted
    obtain ⟨_, description⟩ := optionalString_agrees.field "description" accepted rfl
    obtain ⟨_, name⟩ :=
      string_agrees.requiredField "name" accepted rfl (present "name" (by decide))
    obtain ⟨_, params⟩ := params.list.field "params" accepted rfl
    obtain ⟨_, returns⟩ := optionalString_agrees.field "returns" accepted rfl
    obtain ⟨_, subPackage⟩ := string_agrees.field "subPackage" accepted rfl
    obtain ⟨_, version⟩ := string_agrees.field "version" accepted rfl
    exact ⟨_, bind_ok description <| bind_ok name <| bind_ok params <| bind_ok returns <|
      bind_ok subPackage <| bind_ok version rfl⟩
  accepts {path method} _ := by
    obtain ⟨fields, encoded, name, subPackage, version, list, returns, description⟩ :=
      encode_eq_obj method
    refine check_record.mpr ⟨fields, encoded, ?_, ?_⟩
    · exact List.forall_mem_singleton.mpr (Option.isSome_of_eq_some name)
    · simp only [AcceptsFields, List.forall_mem_cons]
      exact ⟨optionalString_agrees.written description trivial,
        string_agrees.written name trivial, params.list.written list fun _ _ => trivial,
        optionalString_agrees.written returns trivial, string_agrees.written subPackage trivial,
        string_agrees.written version trivial, List.forall_mem_nil _⟩

end Method

namespace Api

def schema : Schema :=
  record [("apiPath", ofType .string), ("apiVersion", .keywords [.all [defined "ApiVersion"]]),
    ("methods", listOf (defined "MethodDescriptor")), ("moduleName", Schema.optionalString),
    ("package", ofType .string), ("packageName", Schema.optionalString)] ["package"]

theorem agrees
    (versions : ApiVersion.codec.Agrees follow (.keywords [.all [defined "ApiVersion"]]))
    (methods : Method.codec.Agrees follow (defined "MethodDescriptor")) :
    codec.Agrees follow schema where
  decodes accepted := by
    obtain ⟨fields, rfl, present, accepted⟩ := check_record.mp accepted
    obtain ⟨_, apiPath⟩ := string_agrees.field "apiPath" accepted rfl
    obtain ⟨_, apiVersion⟩ := versions.field "apiVersion" accepted rfl
    obtain ⟨_, methods⟩ := methods.list.field "methods" accepted rfl
    obtain ⟨_, moduleName⟩ := optionalString_agrees.field "moduleName" accepted rfl
    obtain ⟨_, package⟩ :=
      string_agrees.requiredField "package" accepted rfl (present "package" (by decide))
    obtain ⟨_, packageName⟩ := optionalString_agrees.field "packageName" accepted rfl
    exact ⟨_, bind_ok apiPath <| bind_ok apiVersion <| bind_ok methods <| bind_ok moduleName <|
      bind_ok package <| bind_ok packageName rfl⟩
  accepts {path api} _ := by
    obtain ⟨fields, encoded, package, apiPath, list, apiVersion, packageName, moduleName⟩ :=
      encode_eq_obj api
    refine check_record.mpr ⟨fields, encoded, ?_, ?_⟩
    · exact List.forall_mem_singleton.mpr (Option.isSome_of_eq_some package)
    · simp only [AcceptsFields, List.forall_mem_cons]
      exact ⟨string_agrees.written apiPath trivial, versions.written apiVersion trivial,
        methods.list.written list fun _ _ => trivial,
        optionalString_agrees.written moduleName trivial, string_agrees.written package trivial,
        optionalString_agrees.written packageName trivial, List.forall_mem_nil _⟩

theorem agrees_apiSchema (fuel : Nat) :
    codec.Agrees (followed .older apiSchema (fuel + 2)) (ofJson .older apiSchema) := by
  have params : Param.codec.Agrees (followed .older apiSchema (fuel + 1))
      (defined "ParamDescriptor") := Param.agrees.defined rfl
  have methods : Method.codec.Agrees (followed .older apiSchema (fuel + 2))
      (defined "MethodDescriptor") := (Method.agrees params).defined rfl
  have versions : ApiVersion.codec.Agrees (followed .older apiSchema (fuel + 2))
      (.keywords [.all [defined "ApiVersion"]]) := (ApiVersion.agrees.defined rfl).all
  exact agrees versions methods

end Api

namespace Field

def schema : Schema :=
  record [("list", ofType .boolean), ("name", ofType .string), ("optional", ofType .boolean),
    ("type", ofType .string)] ["name", "type"]

theorem agrees : codec.Agrees follow schema where
  decodes accepted := by
    obtain ⟨fields, rfl, present, accepted⟩ := check_record.mp accepted
    obtain ⟨_, list⟩ := bool_agrees.field "list" accepted rfl
    obtain ⟨_, name⟩ :=
      string_agrees.requiredField "name" accepted rfl (present "name" (by decide))
    obtain ⟨_, optional⟩ := bool_agrees.field "optional" accepted rfl
    obtain ⟨_, type⟩ :=
      string_agrees.requiredField "type" accepted rfl (present "type" (by decide))
    exact ⟨_, bind_ok list <| bind_ok name <| bind_ok optional <| bind_ok type rfl⟩
  accepts {path field} _ := by
    obtain ⟨fields, encoded, name, type, optional, list⟩ := encode_eq_obj field
    refine check_record.mpr ⟨fields, encoded, ?_, ?_⟩
    · exact List.forall_mem_cons.mpr ⟨Option.isSome_of_eq_some name,
        List.forall_mem_singleton.mpr (Option.isSome_of_eq_some type)⟩
    · simp only [AcceptsFields, List.forall_mem_cons]
      exact ⟨bool_agrees.written list trivial, string_agrees.written name trivial,
        bool_agrees.written optional trivial, string_agrees.written type trivial,
        List.forall_mem_nil _⟩

end Field

namespace RecordType

def schema : Schema :=
  record [("fields", listOf (defined "FieldDescriptor")), ("name", ofType .string)] ["name"]

theorem agrees (members : Field.codec.Agrees follow (defined "FieldDescriptor")) :
    codec.Agrees follow schema where
  decodes accepted := by
    obtain ⟨fields, rfl, present, accepted⟩ := check_record.mp accepted
    obtain ⟨_, members⟩ := members.list.field "fields" accepted rfl
    obtain ⟨_, name⟩ :=
      string_agrees.requiredField "name" accepted rfl (present "name" (by decide))
    exact ⟨_, bind_ok members <| bind_ok name rfl⟩
  accepts {path type} _ := by
    obtain ⟨fields, encoded, name, list⟩ := encode_eq_obj type
    refine check_record.mpr ⟨fields, encoded, ?_, ?_⟩
    · exact List.forall_mem_singleton.mpr (Option.isSome_of_eq_some name)
    · simp only [AcceptsFields, List.forall_mem_cons]
      exact ⟨members.list.written list fun _ _ => trivial, string_agrees.written name trivial,
        List.forall_mem_nil _⟩

end RecordType

namespace Scalar

/-- Whole numbers, signed or unsigned, other numbers, and strings. -/
def schema : Schema :=
  .keywords [.any [ofType .integer,
    .keywords [.bound .atLeast (.float 0.0), .types [.integer]], ofType .number, ofType .string]]

theorem check_schema {place : Schema.Place} {value : Json} :
    check place value schema = [] ↔
      (∃ i, value = .int i) ∨ (∃ x, value = .float x) ∨ ∃ s, value = .str s := by
  have decided : check place value schema = [] ↔
      Primitive.integer.has value = true
        ∨ (Bound.atLeast.holds value (.float 0.0) = true ∧ Primitive.integer.has value = true)
        ∨ Primitive.number.has value = true ∨ Primitive.string.has value = true := by
    simp only [schema, check, checkKeywords, checkKeyword, checkEach_eq_map, List.append_nil,
      demand_eq_nil, List.map_cons, List.map_nil, List.any_cons, List.any_nil, Bool.or_false,
      Bool.or_eq_true, List.isEmpty_iff, List.append_eq_nil_iff, check_ofType]
  rw [decided]
  -- a whole number is a number, so the first two schemas add nothing to the third
  cases value <;> simp [Primitive.has, Json.isWhole, Json.fraction?]

theorem agrees : codec.Agrees follow schema where
  decodes accepted := by
    obtain ⟨i, rfl⟩ | ⟨x, rfl⟩ | ⟨s, rfl⟩ := check_schema.mp accepted
    · exact ⟨_, rfl⟩
    · exact ⟨.float x, rfl⟩
    · exact ⟨.text s, rfl⟩
  accepts {path scalar} _ := by
    refine check_schema.mpr ?_
    cases scalar with
    | integer i => exact .inl ⟨i, rfl⟩
    | unsigned n => exact .inl ⟨n, rfl⟩
    | float x => exact .inr (.inl ⟨x, rfl⟩)
    | text s => exact .inr (.inr ⟨s, rfl⟩)

end Scalar

namespace Member

def schema : Schema :=
  record [("name", ofType .string), ("value", defined "EnumScalar")] ["name", "value"]

theorem agrees (scalars : Scalar.codec.Agrees follow (defined "EnumScalar")) :
    codec.Agrees follow schema where
  decodes accepted := by
    obtain ⟨fields, rfl, present, accepted⟩ := check_record.mp accepted
    obtain ⟨_, name⟩ :=
      string_agrees.requiredField "name" accepted rfl (present "name" (by decide))
    obtain ⟨_, value⟩ :=
      scalars.requiredField "value" accepted rfl (present "value" (by decide))
    exact ⟨_, bind_ok name <| bind_ok value rfl⟩
  accepts {path member} known := by
    obtain ⟨fields, encoded, name, value⟩ := encode_eq_obj member
    refine check_record.mpr ⟨fields, encoded, ?_, ?_⟩
    · exact List.forall_mem_cons.mpr ⟨Option.isSome_of_eq_some name,
        List.forall_mem_singleton.mpr (Option.isSome_of_eq_some value)⟩
    · simp only [AcceptsFields, List.forall_mem_cons]
      exact ⟨string_agrees.written name trivial, scalars.written value known,
        List.forall_mem_nil _⟩

end Member

namespace EnumType

def schema : Schema :=
  record [("name", ofType .string), ("values", listOf (defined "EnumValue"))] ["name"]

theorem agrees (members : Member.codec.Agrees follow (defined "EnumValue")) :
    codec.Agrees follow schema where
  decodes accepted := by
    obtain ⟨fields, rfl, present, accepted⟩ := check_record.mp accepted
    obtain ⟨_, name⟩ :=
      string_agrees.requiredField "name" accepted rfl (present "name" (by decide))
    obtain ⟨_, values⟩ := members.list.field "values" accepted rfl
    exact ⟨_, bind_ok name <| bind_ok values rfl⟩
  accepts {path enum} known := by
    obtain ⟨fields, encoded, name, list⟩ := encode_eq_obj enum
    refine check_record.mpr ⟨fields, encoded, ?_, ?_⟩
    · exact List.forall_mem_singleton.mpr (Option.isSome_of_eq_some name)
    · simp only [AcceptsFields, List.forall_mem_cons]
      exact ⟨string_agrees.written name trivial, members.list.written list known,
        List.forall_mem_nil _⟩

end EnumType

namespace Types

def schema : Schema :=
  record [("enums", listOf (defined "EnumDescriptor")), ("package", ofType .string),
    ("types", listOf (defined "TypeDescriptor"))] ["package"]

theorem agrees (records : RecordType.codec.Agrees follow (defined "TypeDescriptor"))
    (enums : EnumType.codec.Agrees follow (defined "EnumDescriptor")) :
    codec.Agrees follow schema where
  decodes accepted := by
    obtain ⟨fields, rfl, present, accepted⟩ := check_record.mp accepted
    obtain ⟨_, enums⟩ := enums.list.field "enums" accepted rfl
    obtain ⟨_, package⟩ :=
      string_agrees.requiredField "package" accepted rfl (present "package" (by decide))
    obtain ⟨_, records⟩ := records.list.field "types" accepted rfl
    exact ⟨_, bind_ok enums <| bind_ok package <| bind_ok records rfl⟩
  accepts {path types} known := by
    obtain ⟨fields, encoded, package, recordList, enumList⟩ := encode_eq_obj types
    refine check_record.mpr ⟨fields, encoded, ?_, ?_⟩
    · exact List.forall_mem_singleton.mpr (Option.isSome_of_eq_some package)
    · simp only [AcceptsFields, List.forall_mem_cons]
      exact ⟨enums.list.written enumList known, string_agrees.written package trivial,
        records.list.written recordList fun _ _ => trivial, List.forall_mem_nil _⟩

theorem agrees_typesSchema (fuel : Nat) :
    codec.Agrees (followed .older typesSchema (fuel + 3)) (ofJson .older typesSchema) := by
  have scalars : Scalar.codec.Agrees (followed .older typesSchema (fuel + 1))
      (defined "EnumScalar") := Scalar.agrees.defined rfl
  have members : Member.codec.Agrees (followed .older typesSchema (fuel + 2))
      (defined "EnumValue") := (Member.agrees scalars).defined rfl
  have enums : EnumType.codec.Agrees (followed .older typesSchema (fuel + 3))
      (defined "EnumDescriptor") := (EnumType.agrees members).defined rfl
  have fields : Field.codec.Agrees (followed .older typesSchema (fuel + 2))
      (defined "FieldDescriptor") := Field.agrees.defined rfl
  have records : RecordType.codec.Agrees (followed .older typesSchema (fuel + 3))
      (defined "TypeDescriptor") := (RecordType.agrees fields).defined rfl
  exact agrees records enums

end Types

end ClientGen
