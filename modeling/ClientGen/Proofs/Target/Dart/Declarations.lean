import ClientGen.Model.Check
import ClientGen.Proofs.Target.Emission

/-! # Declarations in Dart types files

A types file declares a class for each record type, whose constructor has the fields as named
parameters between braces, and an enumeration for each described one, whose members are ended by
commas and, at last, by a semicolon. Dart has no braces without a parameter and no enumeration
without a member, but the template writes both for a type without fields or members.
-/

namespace ClientGen.Target.Dart

open Naming (upperCamel)
open Template

/-- A named parameter of a constructor, which sets a field. -/
structure Parameter where
  required : Bool
  field : String

def Parameter.source (p : Parameter) : String :=
  "    " ++ (if p.required then "required " else "") ++ "this." ++ p.field ++ ",\n"

/-- A class with a constructor. -/
structure ClassDecl where
  name : String
  /-- Type and name of each field. -/
  fields : List (String × String)
  /-- The named parameters of the constructor, if it has braces for them. -/
  parameters : Option (List Parameter)
  /-- Key and field of each entry of the JSON object. -/
  entries : List (String × String)

namespace ClassDecl

def fieldSource (field : String × String) : String :=
  "  final " ++ field.1 ++ " " ++ field.2 ++ ";\n"

def bracesSource : Option (List Parameter) → String
  | some parameters => "\x7b\n" ++ String.join (parameters.map Parameter.source) ++ "  \x7d"
  | none => ""

def entrySource (entry : String × String) : String :=
  "        '" ++ entry.1 ++ "': " ++ entry.2 ++ ",\n"

def source (d : ClassDecl) : String :=
  "\nclass " ++ d.name ++ " \x7b\n" ++ String.join (d.fields.map fieldSource) ++ "\n  const "
    ++ d.name ++ "(" ++ bracesSource d.parameters
    ++ ");\n\n  Map<String, dynamic> toJson() => <String, dynamic>\x7b\n"
    ++ String.join (d.entries.map entrySource) ++ "      \x7d;\n\x7d\n"

/-- There is a parameter between the braces, or there are no braces. -/
def WellFormed (d : ClassDecl) : Prop :=
  d.parameters ≠ some []

end ClassDecl

/-- A member of an enumeration, with the mark that ends its line. -/
structure MemberDecl where
  name : String
  value : String
  mark : String

def MemberDecl.source (m : MemberDecl) : String :=
  "  " ++ m.name ++ "(" ++ m.value ++ ")" ++ m.mark ++ "\n"

/-- An enumeration. -/
structure EnumDecl where
  name : String
  members : List MemberDecl

namespace EnumDecl

def source (d : EnumDecl) : String :=
  "\nenum " ++ d.name ++ " \x7b\n" ++ String.join (d.members.map MemberDecl.source)
    ++ "\n  final Object value;\n\n  const " ++ d.name ++ "(this.value);\n\x7d\n"

/-- There is a member, the last one is ended by a semicolon, and all others by commas. -/
def WellFormed (d : EnumDecl) : Prop :=
  ∃ others last, d.members = others ++ [last] ∧ last.mark = ";" ∧ ∀ m ∈ others, m.mark = ","

end EnumDecl

def parameterOf (field : Field) : Parameter :=
  ⟨!field.optional, identifier field.name⟩

/-- The class of a record type. -/
def classOf (type : RecordType) : ClassDecl where
  name := upperCamel type.name
  fields := type.fields.map fun field =>
    (fieldType field.typeName field.optional field.list, identifier field.name)
  parameters := some (type.fields.map parameterOf)
  entries := type.fields.map fun field => (field.name, identifier field.name)

def memberOf (last : Bool) (member : Member) : MemberDecl :=
  ⟨identifier member.name, Environment.literal .dart member.value.toValue,
    if last then ";" else ","⟩

def membersOf : List Member → List MemberDecl
  | [] => []
  | member :: rest => memberOf rest.isEmpty member :: membersOf rest

/-- The enumeration of a described one. -/
def enumOf (e : EnumType) : EnumDecl where
  name := upperCamel e.name
  members := membersOf e.values

section Declarations

variable {name : String} {type : RecordType} {e : EnumType}

theorem source_parameterOf (field : Field) (last : Bool) :
    constructorPass.part name last field = (parameterOf field).source := by
  obtain ⟨_, _, optional, _⟩ := field
  cases optional <;> rfl

theorem source_classOf (type : RecordType) :
    (classOf type).source = recordForm.block type.name type.fields := by
  have fields : fieldPass.text type.name type.fields = fieldPass.opening type.name
      ++ String.join ((classOf type).fields.map ClassDecl.fieldSource) := by
    rw [classOf, List.map_map]
    exact fieldPass.text_eq_join rfl rfl _
  have parameters : constructorPass.text type.name type.fields = constructorPass.opening type.name
      ++ String.join ((type.fields.map parameterOf).map Parameter.source) := by
    rw [List.map_map]
    exact constructorPass.text_eq_join rfl (funext₂ fun last field => source_parameterOf field last) _
  have entries : jsonPass.text type.name type.fields = jsonPass.opening type.name
      ++ String.join ((classOf type).entries.map ClassDecl.entrySource) := by
    rw [classOf, List.map_map]
    exact jsonPass.text_eq_join rfl rfl _
  have opening : "(\x7b\n" = "(" ++ "\x7b\n" := by decide
  have closing : "  \x7d);\n\n  Map<String, dynamic> toJson() => <String, dynamic>\x7b\n" = "  \x7d"
      ++ ");\n\n  Map<String, dynamic> toJson() => <String, dynamic>\x7b\n" := by decide
  have block : recordForm.block type.name type.fields = fieldPass.text type.name type.fields
      ++ (constructorPass.text type.name type.fields
        ++ (jsonPass.text type.name type.fields ++ "      \x7d;\n\x7d\n")) := by
    simp only [TypeForm.block, recordForm, List.map_cons, List.map_nil, String.join_cons,
      String.join_nil, String.append_empty, String.append_assoc]
  rw [block, fields, parameters, entries]
  unfold ClassDecl.source ClassDecl.bracesSource fieldPass constructorPass jsonPass classOf
  simp only [opening, closing, String.append_assoc]

theorem source_membersOf (name : String) (members : List Member) :
    String.join ((membersOf members).map MemberDecl.source)
      = joinRounds (memberPass.part name) members := by
  induction members with
  | nil => rfl
  | cons member rest ih =>
      rw [membersOf, List.map_cons, String.join_cons, ih, joinRounds]
      cases rest.isEmpty <;> rfl

theorem source_enumOf (e : EnumType) : (enumOf e).source = enumForm.block e.name e.values := by
  have members : memberPass.text e.name e.values = memberPass.opening e.name
      ++ String.join ((enumOf e).members.map MemberDecl.source) := by
    rw [enumOf, source_membersOf e.name, ← ite_joinRounds]
    rfl
  have block : enumForm.block e.name e.values
      = memberPass.text e.name e.values ++ enumForm.closing e.name := by
    simp only [TypeForm.block, enumForm, List.map_cons, List.map_nil, String.join_cons,
      String.join_nil, String.append_empty]
  rw [block, members]
  unfold EnumDecl.source enumOf memberPass enumForm
  simp only [String.append_assoc]

theorem source_declarations (sdk : Sdk) (types : Types) :
    typesForm.head sdk types.package
        ++ String.join ((types.types.map classOf).map ClassDecl.source)
        ++ String.join ((types.enums.map enumOf).map EnumDecl.source)
      = typesForm.source sdk types := by
  have classes : (types.types.map classOf).map ClassDecl.source
      = types.types.map fun type => recordForm.block type.name type.fields := by
    rw [List.map_map]
    exact List.map_congr_left fun type _ => source_classOf type
  have enums : (types.enums.map enumOf).map EnumDecl.source
      = types.enums.map fun e => enumForm.block e.name e.values := by
    rw [List.map_map]
    exact List.map_congr_left fun e _ => source_enumOf e
  rw [classes, enums]
  rfl

theorem membersOf_concat (members : List Member) (last : Member) :
    membersOf (members ++ [last]) = members.map (memberOf false) ++ [memberOf true last] := by
  induction members with
  | nil => rfl
  | cons member rest ih =>
      have more : (rest ++ [last]).isEmpty = false := by simp
      rw [List.cons_append, membersOf, more, ih]
      rfl

theorem wellFormed_classOf_iff : (classOf type).WellFormed ↔ type.fields ≠ [] := by
  rw [ClassDecl.WellFormed, classOf, ne_eq, Option.some_inj, List.map_eq_nil_iff]

theorem wellFormed_enumOf_iff : (enumOf e).WellFormed ↔ e.values ≠ [] := by
  obtain empty | ⟨others, last, split⟩ := List.eq_nil_or_concat e.values
  · refine iff_of_false ?_ (not_not_intro empty)
    rintro ⟨others, last, members, -⟩
    rw [enumOf, empty] at members
    exact List.append_ne_nil_of_right_ne_nil _ (List.cons_ne_nil _ _) members.symm
  · rw [List.concat_eq_append] at split
    refine iff_of_true ⟨others.map (memberOf false), memberOf true last, ?_, rfl, ?_⟩ ?_
    · rw [enumOf, split, membersOf_concat]
    · exact List.forall_mem_map.mpr fun _ _ => rfl
    · rw [split]
      exact List.append_ne_nil_of_right_ne_nil _ (List.cons_ne_nil _ _)

end Declarations

/-- A types file is a preamble, a class for each record type and an enumeration for each described
    one. The classes are well formed if and only if every record type has a field, and the
    enumerations if and only if every described one has a member. -/
theorem emitTypes_wellFormed_iff {sdk : Sdk} (valid : sdk.check = .ok ()) :
    ∃ target, builtin language sdk = .ok target ∧ ∀ types : Types,
      let classes := types.types.map classOf
      let enums := types.enums.map enumOf
      target.emitTypes types = .ok (typesForm.head sdk types.package
        ++ String.join (classes.map ClassDecl.source) ++ String.join (enums.map EnumDecl.source)) ∧
      ((∀ d ∈ classes, d.WellFormed) ↔ ∀ type ∈ types.types, type.fields ≠ []) ∧
      ((∀ d ∈ enums, d.WellFormed) ↔ ∀ e ∈ types.enums, e.values ≠ []) := by
  obtain ⟨target, built, describes⟩ := target_describes valid
  refine ⟨target, built, fun types => ⟨?_, ?_, ?_⟩⟩
  · rw [describes.emitTypes, source_declarations]
    rfl
  · rw [List.forall_mem_map]
    exact forall₂_congr fun type _ => wellFormed_classOf_iff
  · rw [List.forall_mem_map]
    exact forall₂_congr fun e _ => wellFormed_enumOf_iff

theorem emitTypes_wellFormed_iff_status :
    let type : RecordType := { name := "Account", fields := [{ name := "id", typeName := "int" }] }
    let status : EnumType := ⟨"Status", [⟨"Open", .integer 0⟩, ⟨"Closed", .integer 1⟩]⟩
    let types : Types := { package := "ledger", types := [type], enums := [status] }
    ({} : Sdk).check = .ok () ∧ ∃ target, builtin language {} = .ok target ∧
      target.emitTypes types
        = .ok (typesForm.head {} "ledger" ++ (classOf type).source ++ (enumOf status).source) ∧
      (classOf type).WellFormed ∧ (enumOf status).WellFormed := by
  intro type status types
  obtain ⟨target, built, written⟩ := emitTypes_wellFormed_iff Sdk.default_check
  obtain ⟨emitted, classes, enums⟩ := written types
  refine ⟨Sdk.default_check, target, built, ?_,
    classes.mpr (List.forall_mem_singleton.mpr (List.cons_ne_nil _ _)) _ List.mem_cons_self,
    enums.mpr (List.forall_mem_singleton.mpr (List.cons_ne_nil _ _)) _ List.mem_cons_self⟩
  rw [emitted, List.map_singleton, List.map_singleton, List.map_singleton, List.map_singleton,
    String.join_cons, String.join_cons, String.join_nil, String.append_empty, String.append_empty]

/-- An accepted record type without fields, whose constructor has empty braces. -/
theorem emitTypes_wellFormed_empty :
    let types : Types := { package := "ledger", types := [{ name := "Empty" }] }
    (Check.types types "types.json").ok = true ∧
      ∃ target, builtin language {} = .ok target ∧
        target.emitTypes types = .ok (typesForm.head {} "ledger" ++ ("\nclass Empty \x7b\n\n"
          ++ "  const Empty(\x7b\n  \x7d);\n\n"
          ++ "  Map<String, dynamic> toJson() => <String, dynamic>\x7b\n      \x7d;\n\x7d\n")) ∧
        ¬(classOf { name := "Empty" }).WellFormed := by
  intro types
  obtain ⟨target, built, describes⟩ := target_describes Sdk.default_check
  refine ⟨by decide, target, built, ?_, mt wellFormed_classOf_iff.mp (not_not_intro rfl)⟩
  rw [describes.emitTypes]
  decide +kernel

end ClientGen.Target.Dart
