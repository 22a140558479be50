import ClientGen.Schema.Meta

/-! # Accepted values

What a value looks like that a schema has nothing to say against, for the schemas that described
models are made of: values of a type, lists, records, and references to named schemas.
-/

namespace ClientGen.Schema

/-- Values of one type. -/
def ofType (type : Primitive) : Schema :=
  .keywords [.types [type]]

/-- Strings, and null for none. -/
def optionalString : Schema :=
  .keywords [.types [.null, .string]]

/-- The schema that a document defines under a name. -/
def defined (name : String) : Schema :=
  .keywords [.reference ("#/definitions/" ++ name)]

def listOf (schema : Schema) : Schema :=
  .keywords [.items 0 schema, .types [.array]]

/-- Objects with schemas for some of their fields, some of which have to be there. -/
def record (named : List (String × Schema)) (required : List String) : Schema :=
  .keywords [.properties named, .required required, .types [.object]]

/-- One of a few strings. -/
def oneOf (choices : List String) : Schema :=
  .keywords [.options (choices.map Json.str), .types [.string]]

variable {place : Place} {value : Json}

@[simp] theorem demand_eq_nil {met : Bool} {mismatch : Mismatch} :
    place.demand met mismatch = [] ↔ met = true := by
  cases met <;> simp [Place.demand]

theorem checkNamed_eq_nil {named : List (String × Schema)} :
    checkNamed place value named = [] ↔
      ∀ entry ∈ named, ∀ field, value.field? entry.1 = some field →
        check (place.below entry.1) field entry.2 = [] := by
  induction named with
  | nil => simp [checkNamed]
  | cons entry rest ih =>
      obtain ⟨name, schema⟩ := entry
      rw [checkNamed, List.append_eq_nil_iff, List.forall_mem_cons, ih]
      cases value.field? name <;> simp

theorem checkEach_eq_map (schemas : List Schema) :
    checkEach place value schemas = schemas.map (check place value) := by
  induction schemas with
  | nil => rfl
  | cons schema rest ih => rw [checkEach, ih, List.map_cons]

theorem check_ofType {type : Primitive} :
    check place value (ofType type) = [] ↔ type.has value = true := by
  simp [ofType, check, checkKeywords, checkKeyword]

theorem check_optionalString :
    check place value optionalString = [] ↔ value = .null ∨ ∃ s, value = .str s := by
  cases value <;> simp [optionalString, check, checkKeywords, checkKeyword, Primitive.has]

theorem check_defined {name : String} :
    check place value (defined name)
      = place.follow ("#/definitions/" ++ name) place.path value := by
  simp [defined, check, checkKeywords, checkKeyword]

theorem check_listOf {schema : Schema} :
    check place value (listOf schema) = [] ↔
      ∃ items, value = .arr items ∧ ∀ (i : Nat) (item : Json), items[i]? = some item →
        check (place.below (toString i)) item schema = [] := by
  cases value with
  | arr items =>
      simp only [listOf, check, checkKeywords, checkKeyword, Primitive.has, List.drop_zero,
        List.any_cons, Bool.true_or, List.append_nil, List.append_eq_nil_iff, demand_eq_nil,
        List.flatMap_eq_nil_iff, Prod.forall, List.mk_mem_zipIdx_iff_getElem?]
      constructor
      · exact fun ⟨accepted, _⟩ => ⟨items, rfl, fun i item found => accepted item i found⟩
      · rintro ⟨_, ⟨rfl⟩, accepted⟩
        exact ⟨fun item i found => accepted i item found, trivial⟩
  | _ => simp [listOf, check, checkKeywords, checkKeyword, Primitive.has]

/-- Those fields that are named have the schemas that are named for them. -/
def AcceptsFields (place : Place) (named : List (String × Schema))
    (fields : List (String × Json)) : Prop :=
  ∀ entry ∈ named, ∀ field, fields.lookup entry.1 = some field →
    check (place.below entry.1) field entry.2 = []

theorem AcceptsFields.field {named : List (String × Schema)} {fields : List (String × Json)}
    (h : AcceptsFields place named fields) {name : String} {schema : Schema} {field : Json}
    (listed : named.lookup name = some schema) (found : fields.lookup name = some field) :
    check (place.below name) field schema = [] := by
  obtain ⟨before, after, rfl, -⟩ := List.lookup_eq_some_iff.mp listed
  exact h (name, schema) (List.mem_append_right _ (.head _)) field found

theorem check_record {named : List (String × Schema)} {required : List String} :
    check place value (record named required) = [] ↔
      ∃ fields, value = .obj fields ∧ (∀ name ∈ required, (fields.lookup name).isSome = true) ∧
        AcceptsFields place named fields := by
  cases value <;> simp [record, check, checkKeywords, checkKeyword, Primitive.has,
    checkNamed_eq_nil, Json.field?, AcceptsFields, and_comm]

theorem same_str {s : String} : value.same (.str s) = true ↔ value = .str s := by
  cases value with
  | str t => simp [Json.same, Json.sameLeaf]
  | int i => simp [Json.same, Json.sameLeaf, Json.fraction?]
  | float x => simp [Json.same, Json.sameLeaf, Json.fraction?]
  | null | bool | arr | obj => exact ⟨nofun, nofun⟩

theorem check_oneOf {choices : List String} :
    check place value (oneOf choices) = [] ↔ ∃ s ∈ choices, value = .str s := by
  simp only [oneOf, check, checkKeywords, checkKeyword, List.append_nil, List.append_eq_nil_iff,
    demand_eq_nil, List.any_map, List.any_eq_true, Function.comp_apply, same_str, List.any_cons,
    List.any_nil, Bool.or_false]
  constructor
  · exact fun ⟨found, _⟩ => found
  · rintro ⟨s, listed, rfl⟩
    exact ⟨⟨s, listed, rfl⟩, rfl⟩

end ClientGen.Schema
