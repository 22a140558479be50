import ClientGen.Proofs.Model.Check
import ClientGen.Proofs.Naming.Conventions
import ClientGen.Proofs.Target.Emission
import ClientGen.Proofs.Target.Fragments
import Mathlib.Data.List.Pairwise

/-! # Symbols of types files

A types file declares a symbol for each record type, and for each enumeration one of its own or, in
Go, one for each of its members, which starts with the name of the enumeration. The check of types
looks at one list of names at a time, so what it accepts can meet in the file: a record type and an
enumeration can, and constants of two enumerations can.
-/

namespace ClientGen.Target

open Naming (upperCamel)
open Template (joinRounds)

section Forms

variable {α : Type}

/-- What a pass shows of the parts of a type. -/
def Pass.body (pass : Pass α) (name : String) (parts : List α) : String :=
  if parts.isEmpty then pass.placeholder else joinRounds (pass.part name) parts

/-- The first pass declares the type by its exported name. -/
structure TypeForm.Declares (form : TypeForm α) where
  /-- What stands before and behind the name. -/
  lead : String
  rest : String
  first : Pass α
  others : List (Pass α)
  passes_eq : form.passes = first :: others
  opening_eq (name : String) : first.opening name = lead ++ upperCamel name ++ rest

variable {form : TypeForm α} (h : form.Declares) (name : String) (parts : List α)

/-- A type in fragments. -/
def TypeForm.Declares.fragments : List Fragment := [
  .code h.lead,
  .name (upperCamel name),
  .code (h.rest ++ h.first.body name parts ++ String.join (h.others.map (·.text name parts))
    ++ form.closing name)]

theorem TypeForm.Declares.source_fragments :
    Fragment.source (h.fragments name parts) = form.block name parts := by
  rw [TypeForm.block, h.passes_eq, List.map_cons, String.join_cons, Pass.text, h.opening_eq]
  simp only [fragments, Pass.body, Fragment.source_code, Fragment.source_name, Fragment.source_nil,
    String.append_assoc, String.append_empty]

end Forms

/-- How the types files of a form declare symbols. -/
structure SymbolForm where
  language : String
  form : TypesForm
  record (type : RecordType) : List Fragment
  enum (enum : EnumType) : List Fragment
  /-- The symbols of an enumeration. -/
  symbols (enum : EnumType) : List String
  source_record (type : RecordType) :
    Fragment.source (record type) = form.record.block type.name type.fields
  source_enum (e : EnumType) : Fragment.source (enum e) = form.enum.block e.name e.values
  declared_record (type : RecordType) :
    Fragment.declared (record type) = [upperCamel type.name]
  declared_enum (e : EnumType) : Fragment.declared (enum e) = symbols e

namespace SymbolForm

variable (w : SymbolForm)

/-- A types file in fragments. -/
def file (sdk : Sdk) (types : Types) : List Fragment :=
  .code (w.form.head sdk types.package) :: types.types.flatMap w.record
    ++ types.enums.flatMap w.enum

/-- The symbols of the record types, and of the enumerations. -/
def recordSymbols (types : Types) : List String :=
  types.types.map fun type => upperCamel type.name

def enumSymbols (types : Types) : List String :=
  types.enums.flatMap w.symbols

theorem source_file (sdk : Sdk) (types : Types) :
    Fragment.source (w.file sdk types) = w.form.source sdk types := by
  rw [file, TypesForm.source, Fragment.source_append, Fragment.source_code,
    Fragment.source_flatMap fun type _ => w.source_record type,
    Fragment.source_flatMap fun e _ => w.source_enum e]

theorem declared_file (sdk : Sdk) (types : Types) :
    Fragment.declared (w.file sdk types) = recordSymbols types ++ w.enumSymbols types := by
  rw [file, Fragment.declared_append, Fragment.declared_code,
    Fragment.declared_flatMap fun type _ => w.declared_record type,
    Fragment.declared_flatMap fun e _ => w.declared_enum e, recordSymbols, enumSymbols,
    List.map_eq_flatMap]

end SymbolForm

/-- A form that declares each record type and each enumeration by its exported name. -/
def SymbolForm.ofDeclares (language : String) (form : TypesForm) (record : form.record.Declares)
    (enum : form.enum.Declares) : SymbolForm where
  language := language
  form := form
  record type := record.fragments type.name type.fields
  enum e := enum.fragments e.name e.values
  symbols e := [upperCamel e.name]
  source_record type := record.source_fragments type.name type.fields
  source_enum e := enum.source_fragments e.name e.values
  declared_record _ := rfl
  declared_enum _ := rfl

def Dart.symbolForm : SymbolForm :=
  .ofDeclares language Dart.typesForm
    ⟨"\nclass ", " \x7b\n", fieldPass, [constructorPass, jsonPass], rfl, fun _ => rfl⟩
    ⟨"\nenum ", " \x7b\n", memberPass, [], rfl, fun _ => rfl⟩

def Python.symbolForm : SymbolForm :=
  .ofDeclares language Python.typesForm
    ⟨"\n\n@dataclass(kw_only=True)\nclass ", ":\n", fieldPass, [], rfl, fun _ => rfl⟩
    ⟨"\n\nclass ", "(Enum):\n", memberPass, [], rfl, fun _ => rfl⟩

def Rust.symbolForm : SymbolForm :=
  .ofDeclares language Rust.typesForm
    ⟨"\n#[derive(Debug, Clone, PartialEq, Serialize, Deserialize)]\npub struct ", " \x7b\n",
      fieldPass, [], rfl, fun _ => rfl⟩
    ⟨"\n#[derive(Debug, Clone, Copy, PartialEq, Eq, Hash)]\npub enum ", " \x7b\n", variantPass,
      [valuePass], rfl, fun _ => rfl⟩

/-- The constant of a member starts with the exported name of the enumeration. -/
def Go.constant (e : EnumType) (member : Member) : String :=
  upperCamel e.name ++ upperCamel member.name

def Go.constantFragments (e : EnumType) (member : Member) : List Fragment := [
  .code "\t",
  .name (constant e member),
  .code (" = " ++ Template.Environment.literal .json member.value.toValue ++ "\n")]

theorem Go.source_constantFragments (e : EnumType) (member : Member) :
    Fragment.source (constantFragments e member) = memberPass.part e.name false member := by
  simp only [constantFragments, constant, memberPass, Fragment.source_code, Fragment.source_name,
    Fragment.source_nil, String.append_assoc, String.append_empty]

/-- The constants of an enumeration, in a block of their own. -/
def Go.enumFragments (e : EnumType) : List Fragment :=
  .code (memberPass.opening e.name) :: e.values.flatMap (constantFragments e) ++ [.code ")\n"]

theorem Go.source_enumFragments (e : EnumType) :
    Fragment.source (enumFragments e) = enumForm.block e.name e.values := by
  have text : memberPass.text e.name e.values
      = memberPass.opening e.name ++ String.join (e.values.map (memberPass.part e.name false)) :=
    memberPass.text_eq_join rfl rfl e.values
  have block : enumForm.block e.name e.values = memberPass.text e.name e.values ++ ")\n" := by
    rw [TypeForm.block, show enumForm.passes = [memberPass] from rfl, List.map_singleton,
      String.join_cons, String.join_nil, String.append_empty]
    rfl
  rw [block, text, enumFragments, Fragment.source_append, Fragment.source_code,
    Fragment.source_flatMap fun member _ => source_constantFragments e member,
    Fragment.source_code, Fragment.source_nil, String.append_empty]

theorem Go.declared_enumFragments (e : EnumType) :
    Fragment.declared (enumFragments e) = e.values.map (constant e) := by
  have constants : Fragment.declared (e.values.flatMap (constantFragments e))
      = e.values.flatMap fun member => [constant e member] :=
    Fragment.declared_flatMap fun _ _ => rfl
  rw [enumFragments, Fragment.declared_append, Fragment.declared_code, constants,
    Fragment.declared_code, Fragment.declared_nil, List.append_nil, List.map_eq_flatMap]

def Go.symbolForm : SymbolForm :=
  let record : Go.recordForm.Declares :=
    ⟨"\ntype ", " struct \x7b\n", fieldPass, [], rfl, fun _ => rfl⟩
  { language := language
    form := Go.typesForm
    record := fun type => record.fragments type.name type.fields
    enum := enumFragments
    symbols := fun e => e.values.map (constant e)
    source_record := fun type => record.source_fragments type.name type.fields
    source_enum := source_enumFragments
    declared_record := fun _ => rfl
    declared_enum := declared_enumFragments }

def symbolForms : List SymbolForm :=
  [Dart.symbolForm, Python.symbolForm, Rust.symbolForm, Go.symbolForm]

theorem exists_symbolForm {form : PackageForm} (listed : form ∈ builtinForms) :
    ∃ w ∈ symbolForms, w.language = form.client.language ∧ w.form = form.types := by
  have same : symbolForms.map (fun w => (w.language, w.form))
      = builtinForms.map fun form => (form.client.language, form.types) := rfl
  have mem := List.mem_map_of_mem (f := fun form => (form.client.language, form.types)) listed
  rw [← same] at mem
  obtain ⟨w, held, same⟩ := List.mem_map.mp mem
  exact ⟨w, held, Prod.mk.inj same⟩

theorem symbols_eq {w : SymbolForm} (held : w ∈ symbolForms) (e : EnumType) :
    w.symbols e
      = if w.language = "go" then e.values.map (Go.constant e) else [upperCamel e.name] := by
  simp only [symbolForms, List.mem_cons, List.not_mem_nil, or_false] at held
  obtain rfl | rfl | rfl | rfl := held
  · exact (if_neg (by decide)).symm
  · exact (if_neg (by decide)).symm
  · exact (if_neg (by decide)).symm
  · exact (if_pos rfl).symm

/-- The symbols of a types file are different within each of its parts and across them. -/
structure SymbolForm.Apart (w : SymbolForm) (types : Types) : Prop where
  records : ∀ type ∈ types.types, ∀ type' ∈ types.types,
    upperCamel type.name = upperCamel type'.name → type.name = type'.name
  members : ∀ e ∈ types.enums, (w.symbols e).Nodup
  enums : ∀ e ∈ types.enums, ∀ e' ∈ types.enums, e.name ≠ e'.name →
    (w.symbols e).Disjoint (w.symbols e')
  across : ∀ type ∈ types.types, ∀ e ∈ types.enums, upperCamel type.name ∉ w.symbols e

section Apart

variable {w : SymbolForm} {types : Types} {style : Naming.Style}

theorem nodup_recordSymbols_iff (usable : Check.UsableTypes types) :
    (SymbolForm.recordSymbols types).Nodup ↔ ∀ type ∈ types.types, ∀ type' ∈ types.types,
      upperCamel type.name = upperCamel type'.name → type.name = type'.name := by
  have named : SymbolForm.recordSymbols types
      = (types.types.map (·.name)).map upperCamel := by
    rw [List.map_map]
    rfl
  rw [named, List.nodup_map_iff_inj_on usable.records.2]
  simp only [List.forall_mem_map]

theorem nodup_enumSymbols_iff (usable : Check.UsableTypes types) :
    (w.enumSymbols types).Nodup ↔ (∀ e ∈ types.enums, (w.symbols e).Nodup) ∧
      ∀ e ∈ types.enums, ∀ e' ∈ types.enums, e.name ≠ e'.name →
        (w.symbols e).Disjoint (w.symbols e') := by
  rw [SymbolForm.enumSymbols, List.nodup_flatMap]
  refine and_congr_right fun _ => ⟨fun apart e mem e' mem' other => ?_, fun apart => ?_⟩
  · have : Std.Symm fun e e' => (w.symbols e).Disjoint (w.symbols e') :=
      ⟨fun _ _ => List.disjoint_symm⟩
    exact apart.forall mem mem' fun same => other (congrArg _ same)
  · refine (List.Nodup.of_map _ usable.enums.2).pairwise_of_forall_ne fun e mem e' mem' other => ?_
    exact apart e mem e' mem' fun same =>
      other (List.inj_on_of_nodup_map usable.enums.2 mem mem' same)

theorem SymbolForm.nodup_iff_apart (usable : Check.UsableTypes types) :
    (recordSymbols types ++ w.enumSymbols types).Nodup ↔ w.Apart types := by
  have across : (recordSymbols types).Disjoint (w.enumSymbols types) ↔
      ∀ type ∈ types.types, ∀ e ∈ types.enums, upperCamel type.name ∉ w.symbols e := by
    simp only [List.Disjoint, recordSymbols, enumSymbols, List.mem_map, List.mem_flatMap]
    constructor
    · exact fun apart type mem e mem' both => apart ⟨type, mem, rfl⟩ ⟨e, mem', both⟩
    · rintro apart name ⟨type, mem, rfl⟩ ⟨e, mem', both⟩
      exact apart type mem e mem' both
  rw [List.nodup_append', nodup_recordSymbols_iff usable, nodup_enumSymbols_iff usable, across]
  exact ⟨fun ⟨records, ⟨members, enums⟩, across⟩ => ⟨records, members, enums, across⟩,
    fun h => ⟨h.records, ⟨h.members, h.enums⟩, h.across⟩⟩

/-- All record types and enumerations are named by one convention. -/
structure Conventional (style : Naming.Style) (types : Types) : Prop where
  records : ∀ type ∈ types.types, style.Follows type.name
  enums : ∀ e ∈ types.enums, style.Follows e.name

theorem exported_eq_iff (conventional : Conventional style types) {type : RecordType}
    (mem : type ∈ types.types) {e : EnumType} (mem' : e ∈ types.enums) :
    upperCamel type.name = upperCamel e.name ↔ type.name = e.name :=
  ⟨Naming.upperCamel_inj (conventional.records type mem) (conventional.enums e mem'),
    congrArg upperCamel⟩

theorem apart_iff_of_ne_go (held : w ∈ symbolForms) (other : w.language ≠ "go")
    (conventional : Conventional style types) :
    w.Apart types ↔ ∀ type ∈ types.types, ∀ e ∈ types.enums, type.name ≠ e.name := by
  have symbols (e : EnumType) : w.symbols e = [upperCamel e.name] := by
    rw [symbols_eq held, if_neg other]
  constructor
  · intro apart type mem e mem' same
    refine apart.across type mem e mem' ?_
    rw [symbols, List.mem_singleton, same]
  · intro distinct
    refine ⟨fun type mem type' mem' => ?_, fun e _ => ?_, fun e mem e' mem' other => ?_,
      fun type mem e mem' both => ?_⟩
    · exact Naming.upperCamel_inj (conventional.records type mem) (conventional.records type' mem')
    · rw [symbols]
      exact List.nodup_singleton _
    · rw [symbols, symbols, List.singleton_disjoint, List.mem_singleton]
      exact mt (Naming.upperCamel_inj (conventional.enums e mem) (conventional.enums e' mem')) other
    · rw [symbols, List.mem_singleton, exported_eq_iff conventional mem mem'] at both
      exact distinct type mem e mem' both

/-- In Go, constants can meet record types and constants of other enumerations. -/
theorem apart_iff_of_go (held : w ∈ symbolForms) (go : w.language = "go")
    (usable : Check.UsableTypes types) (conventional : Conventional style types)
    (members : ∀ e ∈ types.enums, ∃ style : Naming.Style,
      ∀ member ∈ e.values, style.Follows member.name) :
    w.Apart types ↔ ∀ e ∈ types.enums, ∀ member ∈ e.values,
      (∀ type ∈ types.types, upperCamel type.name ≠ Go.constant e member) ∧
      ∀ e' ∈ types.enums, e.name ≠ e'.name → ∀ member' ∈ e'.values,
        Go.constant e member ≠ Go.constant e' member' := by
  have symbols (e : EnumType) : w.symbols e = e.values.map (Go.constant e) := by
    rw [symbols_eq held, if_pos go]
  constructor
  · intro apart e mem member there
    have own : Go.constant e member ∈ w.symbols e := symbols e ▸ List.mem_map_of_mem there
    refine ⟨fun type mem' same => apart.across type mem' e mem (same ▸ own),
      fun e' mem' other member' there' same => ?_⟩
    have own' : Go.constant e' member' ∈ w.symbols e' := symbols e' ▸ List.mem_map_of_mem there'
    exact apart.enums e mem e' mem' other own (same ▸ own')
  · intro distinct
    refine ⟨fun type mem type' mem' => ?_, fun e mem => ?_,
      fun e mem e' mem' other name own own' => ?_, fun type mem e mem' both => ?_⟩
    · exact Naming.upperCamel_inj (conventional.records type mem) (conventional.records type' mem')
    · obtain ⟨style, follows⟩ := members e mem
      rw [symbols]
      refine List.Nodup.map_on (fun member there member' there' same => ?_)
        (List.Nodup.of_map _ (usable.members e mem).2)
      have same := Naming.upperCamel_inj (follows member there) (follows member' there')
        ((String.append_right_inj _).mp same)
      exact List.inj_on_of_nodup_map (usable.members e mem).2 there there' same
    · rw [symbols] at own own'
      obtain ⟨member, there, rfl⟩ := List.mem_map.mp own
      obtain ⟨member', there', same⟩ := List.mem_map.mp own'
      exact (distinct e mem member there).2 e' mem' other member' there' same.symm
    · rw [symbols] at both
      obtain ⟨member, there, same⟩ := List.mem_map.mp both
      exact (distinct e mem' member there).1 type mem same.symm

/-- No exported name starts with that of an enumeration, but its own. -/
structure PrefixFree (types : Types) : Prop where
  records : ∀ e ∈ types.enums, ∀ type ∈ types.types,
    ¬(upperCamel e.name).toList <+: (upperCamel type.name).toList
  enums : ∀ e ∈ types.enums, ∀ e' ∈ types.enums, e.name ≠ e'.name →
    ¬(upperCamel e.name).toList <+: (upperCamel e'.name).toList

theorem toList_constant {e : EnumType} {member : Member} : (Go.constant e member).toList
    = (upperCamel e.name).toList ++ (upperCamel member.name).toList :=
  String.toList_append

theorem PrefixFree.constants (free : PrefixFree types) {e : EnumType} (mem : e ∈ types.enums)
    (member : Member) :
    (∀ type ∈ types.types, upperCamel type.name ≠ Go.constant e member) ∧
      ∀ e' ∈ types.enums, e.name ≠ e'.name → ∀ member' ∈ e'.values,
        Go.constant e member ≠ Go.constant e' member' := by
  refine ⟨fun type mem' same => free.records e mem type mem' ?_,
    fun e' mem' other member' _ same => ?_⟩
  · rw [same, toList_constant]
    exact List.prefix_append _ _
  · have own := List.prefix_append (upperCamel e.name).toList (upperCamel member.name).toList
    rw [← toList_constant, same, toList_constant] at own
    obtain longer | longer := List.prefix_or_prefix_of_prefix own (List.prefix_append _ _)
    · exact free.enums e mem e' mem' other longer
    · exact free.enums e' mem' e mem other.symm longer

end Apart

/-- A types file declares its record types and its enumerations in order. If the types are accepted,
    its symbols are different if and only if the exported names are, in each part and across the
    parts. Where the names follow a convention, a record type can meet an enumeration of the same
    name only. In Go it can meet a constant, and so can a constant of another enumeration, but not
    where no exported name starts with that of an enumeration. -/
theorem emitTypes_symbols {language : String} (known : language ∈ builtinLanguages) {sdk : Sdk}
    (valid : sdk.check = .ok ()) :
    ∃ w ∈ symbolForms, w.language = language ∧
      ∃ target, builtin language sdk = .ok target ∧
        ∀ types file, (Check.types types file).ok = true →
          let symbols := Fragment.declared (w.file sdk types)
          target.emitTypes types = .ok (Fragment.source (w.file sdk types)) ∧
          symbols = SymbolForm.recordSymbols types ++ w.enumSymbols types ∧
          (symbols.Nodup ↔ w.Apart types) ∧
          ∀ style, Conventional style types →
            (language ≠ "go" → (symbols.Nodup ↔
              ∀ type ∈ types.types, ∀ e ∈ types.enums, type.name ≠ e.name)) ∧
            (language = "go" →
              (∀ e ∈ types.enums, ∃ style : Naming.Style,
                ∀ member ∈ e.values, style.Follows member.name) →
              (symbols.Nodup ↔ ∀ e ∈ types.enums, ∀ member ∈ e.values,
                (∀ type ∈ types.types, upperCamel type.name ≠ Go.constant e member) ∧
                ∀ e' ∈ types.enums, e.name ≠ e'.name → ∀ member' ∈ e'.values,
                  Go.constant e member ≠ Go.constant e' member') ∧
              (PrefixFree types → symbols.Nodup)) := by
  obtain ⟨form, listed, rfl⟩ := exists_form known
  obtain ⟨target, built, describes⟩ := builtin_describes listed valid
  obtain ⟨w, held, spoken, same⟩ := exists_symbolForm listed
  refine ⟨w, held, spoken, target, built, fun types file accepted => ?_⟩
  have usable := Check.ok_types_iff.mp accepted
  have apart : (Fragment.declared (w.file sdk types)).Nodup ↔ w.Apart types := by
    rw [w.declared_file]
    exact SymbolForm.nodup_iff_apart usable
  refine ⟨?_, w.declared_file sdk types, apart, fun style conventional => ⟨fun other => ?_,
    fun go members => ?_⟩⟩
  · rw [describes.emitTypes, w.source_file, same]
  · exact apart.trans (apart_iff_of_ne_go held (spoken ▸ other) conventional)
  · have distinct := apart.trans
      (apart_iff_of_go held (spoken.trans go) usable conventional members)
    exact ⟨distinct, fun free => distinct.mpr fun e mem member _ => free.constants mem member⟩

/-- A record type and an enumeration with names of one convention, in Go. -/
theorem emitTypes_symbols_go :
    let types : Types := {
      package := "ledger", types := [{ name := "Account" }]
      enums := [⟨"Status", [⟨"Open", .integer 0⟩, ⟨"Closed", .integer 1⟩]⟩] }
    "go" ∈ builtinLanguages ∧ ({} : Sdk).check = .ok () ∧
      (Check.types types "types.json").ok = true ∧
      ∃ w ∈ symbolForms, w.language = "go" ∧ ∃ target, builtin "go" {} = .ok target ∧
        target.emitTypes types = .ok (Fragment.source (w.file {} types)) ∧
        (Fragment.declared (w.file {} types)).Nodup := by
  intro types
  have known : "go" ∈ builtinLanguages := by decide
  have accepted : (Check.types types "types.json").ok = true := by decide
  obtain ⟨w, held, spoken, target, built, written⟩ := emitTypes_symbols known Sdk.default_check
  obtain ⟨emitted, -, -, conventional⟩ := written types "types.json" accepted
  have account : Naming.Style.pascal.Follows (String.ofList ['A', 'c', 'c', 'o', 'u', 'n', 't']) :=
    Naming.Style.follows_ofList rfl
  have status : Naming.Style.pascal.Follows (String.ofList ['S', 't', 'a', 't', 'u', 's']) :=
    Naming.Style.follows_ofList rfl
  have opened : Naming.Style.pascal.Follows (String.ofList ['O', 'p', 'e', 'n']) :=
    Naming.Style.follows_ofList rfl
  have closed : Naming.Style.pascal.Follows (String.ofList ['C', 'l', 'o', 's', 'e', 'd']) :=
    Naming.Style.follows_ofList rfl
  obtain ⟨-, go⟩ := conventional .pascal
    ⟨List.forall_mem_singleton.mpr account, List.forall_mem_singleton.mpr status⟩
  obtain ⟨-, free⟩ := go rfl (List.forall_mem_singleton.mpr
    ⟨.pascal, List.forall_mem_cons.mpr ⟨opened, List.forall_mem_singleton.mpr closed⟩⟩)
  refine ⟨known, Sdk.default_check, accepted, w, held, spoken, target, built, emitted,
    free ⟨?_, ?_⟩⟩
  · refine List.forall_mem_singleton.mpr (List.forall_mem_singleton.mpr ?_)
    decide +kernel
  · refine List.forall_mem_singleton.mpr (List.forall_mem_singleton.mpr fun other => ?_)
    exact absurd rfl other

/-- A record type and an enumeration of one name, which are two classes in Python. -/
theorem emitTypes_symbols_status :
    let types : Types := {
      package := "ledger", types := [{ name := "Status" }]
      enums := [⟨"Status", [⟨"Open", .integer 0⟩]⟩] }
    (Check.types types "types.json").ok = true ∧
      ∃ target, builtin "python" {} = .ok target ∧
        target.emitTypes types = .ok (Fragment.source (Python.symbolForm.file {} types)) ∧
        Fragment.declared (Python.symbolForm.file {} types) = ["Status", "Status"] ∧
        ¬(Fragment.declared (Python.symbolForm.file {} types)).Nodup := by
  intro types
  obtain ⟨target, built, describes⟩ := Python.target_describes Sdk.default_check
  have names : Fragment.declared (Python.symbolForm.file {} types) = ["Status", "Status"] := by
    rw [SymbolForm.declared_file]
    decide +kernel
  refine ⟨by decide, target, built, ?_, names, ?_⟩
  · rw [describes.emitTypes]
    exact congrArg _ (Python.symbolForm.source_file {} types).symm
  · rw [names]
    decide

end ClientGen.Target
