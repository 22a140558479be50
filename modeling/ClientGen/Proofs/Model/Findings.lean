import ClientGen.Model.Check
import ClientGen.Proofs.Model.Reports
import Mathlib.Data.List.Nodup
import Mathlib.Order.Bounds.Basic
import Mathlib.Tactic.MkIffOfInductiveProp

/-! # What a check finds

A check goes through a model in the order of the document and looks at one thing after the other.
What is due on a thing is said by rules that know nothing but that thing; a name is looked at among
the names of its own list. The report on a model consists of the findings that are due, in the order
of the things they are due on, and the model is usable if no error is due.
-/

namespace ClientGen.Check

/-- The names of the entries of one list of a document. -/
structure NameList where
  /-- What messages call an entry. -/
  kind : String
  path : String
  names : List String

def methodNames (api : Api) : NameList :=
  ⟨"Method", "$.methods", api.methods.map (·.name)⟩

def recordNames (types : Types) : NameList :=
  ⟨"Type", "$.types", types.types.map (·.name)⟩

def fieldNames (index : Nat) (record : RecordType) : NameList :=
  ⟨"Field", entryPath "$.types" index ++ ".fields", record.fields.map (·.name)⟩

def enumNames (types : Types) : NameList :=
  ⟨"Enum", "$.enums", types.enums.map (·.name)⟩

def memberNames (index : Nat) (enum : EnumType) : NameList :=
  ⟨"Enum member", entryPath "$.enums" index ++ ".values", enum.values.map (·.name)⟩

/-- What a check looks at: a part of a model, with its index in each list that it is in. -/
inductive Subject where
  /-- The package identifier of an API. -/
  | package (name : String)
  | name (list : NameList) (index : Nat)
  | version (index : Nat) (method : Method)
  | param (index : Nat) (method : Method) (inner : Nat) (param : Param)
  | fieldType (index : Nat) (record : RecordType) (inner : Nat) (field : Field)

/-- The methods of an API, each with its name, its version and its parameters. -/
def apiSubjects (api : Api) : List Subject :=
  .package api.package :: api.methods.zipIdx.flatMap fun (method, index) =>
    .name (methodNames api) index :: .version index method ::
      method.params.zipIdx.map fun (param, inner) => .param index method inner param

/-- The records, each with its fields, and then the enumerations, each with its members. -/
def typesSubjects (types : Types) : List Subject :=
  (types.types.zipIdx.flatMap fun (record, index) =>
    .name (recordNames types) index :: record.fields.zipIdx.flatMap fun (field, inner) =>
      [.name (fieldNames index record) inner, .fieldType index record inner field]) ++
  types.enums.zipIdx.flatMap fun (enum, index) =>
    .name (enumNames types) index :: enum.values.zipIdx.map fun (_, inner) =>
      .name (memberNames index enum) inner

/-- The finding that is due on what is looked at. -/
inductive Due (file : String) : Subject → Finding → Prop
  | noPackage : Due file (.package "")
      { code := Finding.missingField, severity := .error, message := "API package is required"
        file, path := "$.package"
        suggestion := some "Add a 'package' identifier (e.g., \"ledger\")" }
  | noName {list : NameList} {index : Nat} (empty : list.names[index]? = some "") :
      Due file (.name list index)
        { code := Finding.missingField, severity := .error
          message := list.kind ++ " name is required"
          file, path := entryPath list.path index ++ ".name" }
  /-- The entry that is named in the message is the first one with the name. -/
  | repeated {list : NameList} {index first : Nat} {name : String}
      (there : list.names[index]? = some name) (named : name ≠ "")
      (least : IsLeast {i | i < index ∧ list.names[i]? = some name} first) :
      Due file (.name list index)
        { code := Finding.duplicateSymbol, severity := .error
          message := list.kind ++ " '" ++ name ++ "' is declared more than once (first at "
            ++ entryPath list.path first ++ ")"
          file, path := entryPath list.path index ++ ".name"
          suggestion := some ("Rename or remove the duplicate " ++ Text.lowercase list.kind) }
  | unknownVersion {index : Nat} {method : Method} (unknown : method.version ∉ ["", "v2", "v3"]) :
      Due file (.version index method)
        { code := Finding.unknownVersion, severity := .warning
          message := "Method '" ++ method.name ++ "' has unknown version tag '"
            ++ method.version ++ "'"
          file, path := entryPath "$.methods" index ++ ".version"
          suggestion := some "Use \"v2\", \"v3\", or leave empty" }
  | incompleteParam {index inner : Nat} {method : Method} {param : Param}
      (incomplete : param.name = "" ∨ param.typeName = "") :
      Due file (.param index method inner param)
        { code := Finding.missingField, severity := .error
          message := "Parameter " ++ toString inner ++ " of method '" ++ method.name
            ++ "' needs a name and a type"
          file, path := entryPath (entryPath "$.methods" index ++ ".params") inner }
  | noType {index inner : Nat} {record : RecordType} {field : Field}
      (empty : field.typeName = "") :
      Due file (.fieldType index record inner field)
        { code := Finding.missingField, severity := .error
          message := "Field '" ++ field.name ++ "' of type '" ++ record.name ++ "' has no type"
          file, path := entryPath (entryPath "$.types" index ++ ".fields") inner ++ ".type" }

/-- The findings that are due on one thing after the other. -/
inductive Reports (file : String) : List Subject → List Finding → Prop
  | nil : Reports file [] []
  | fine {s : Subject} {subjects : List Subject} {findings : List Finding}
      (h : ∀ f, ¬Due file s f) (rest : Reports file subjects findings) :
      Reports file (s :: subjects) findings
  | due {s : Subject} {f : Finding} {subjects : List Subject} {findings : List Finding}
      (h : Due file s f) (rest : Reports file subjects findings) :
      Reports file (s :: subjects) (f :: findings)

/-- The report has been put together of the findings that are due. -/
structure ReportOn (file : String) (subjects : List Subject) (report : Report) : Prop where
  reports : Reports file subjects report.findings
  built : report.Built report.findings

/-- Each entry of a list has a name, and no two have the same. -/
def OwnNames (names : List String) : Prop :=
  (∀ name ∈ names, name ≠ "") ∧ names.Nodup

@[mk_iff]
structure UsableApi (api : Api) : Prop where
  package : api.package ≠ ""
  methods : OwnNames (api.methods.map (·.name))
  params : ∀ method ∈ api.methods, ∀ param ∈ method.params, param.name ≠ "" ∧ param.typeName ≠ ""

@[mk_iff]
structure UsableTypes (types : Types) : Prop where
  records : OwnNames (types.types.map (·.name))
  fields : ∀ record ∈ types.types, OwnNames (record.fields.map (·.name))
  fieldTypes : ∀ record ∈ types.types, ∀ field ∈ record.fields, field.typeName ≠ ""
  enums : OwnNames (types.enums.map (·.name))
  members : ∀ enum ∈ types.enums, OwnNames (enum.values.map (·.name))

/-- No error is due on what is looked at. -/
def Passes (file : String) (s : Subject) : Prop :=
  ∀ f, Due file s f → f.severity ≠ .error

section Reports

variable {file : String} {s : Subject} {f g : Finding} {subjects others : List Subject}
  {findings more : List Finding} {report : Report}

theorem Due.unique (h : Due file s f) (h' : Due file s g) : f = g := by
  cases h with
  | noPackage => cases h'; rfl
  | noName empty =>
      cases h' with
      | noName => rfl
      | repeated there named => exact absurd (Option.some.inj (there.symm.trans empty)) named
  | repeated there named least =>
      cases h' with
      | noName empty => exact absurd (Option.some.inj (there.symm.trans empty)) named
      | repeated there' _ least' =>
          obtain rfl := Option.some.inj (there.symm.trans there')
          rw [least.unique least']
  | unknownVersion => cases h'; rfl
  | incompleteParam => cases h'; rfl
  | noType => cases h'; rfl

namespace Reports

theorem unique (h : Reports file subjects findings) (h' : Reports file subjects more) :
    findings = more := by
  induction h generalizing more with
  | nil =>
      cases h'
      rfl
  | fine none _ ih =>
      cases h' with
      | fine _ rest => exact ih rest
      | due some => exact absurd some (none _)
  | due some _ ih =>
      cases h' with
      | fine none => exact absurd some (none _)
      | due some' rest => rw [some.unique some', ih rest]

theorem append (h : Reports file subjects findings) (h' : Reports file others more) :
    Reports file (subjects ++ others) (findings ++ more) := by
  induction h with
  | nil => exact h'
  | fine none _ ih => exact .fine none ih
  | due told _ ih => exact .due told ih

theorem mem_iff (h : Reports file subjects findings) :
    f ∈ findings ↔ ∃ s ∈ subjects, Due file s f := by
  induction h with
  | nil => simp
  | fine none _ ih => simp [ih, none]
  | due told _ ih =>
      rw [List.mem_cons, List.exists_mem_cons_iff, ih]
      exact or_congr_left ⟨fun same => same ▸ told, fun told' => told'.unique told⟩

end Reports

namespace ReportOn

theorem success : ReportOn file [] {} :=
  ⟨.nil, .success⟩

theorem push (h : ReportOn file subjects report) (due : Due file s f) :
    ReportOn file (subjects ++ [s]) (report.push f) :=
  ⟨h.reports.append (.due due .nil), h.built.push f⟩

theorem fine (h : ReportOn file subjects report) (none : ∀ f, ¬Due file s f) :
    ReportOn file (subjects ++ [s]) report where
  reports := List.append_nil report.findings ▸ h.reports.append (.fine none .nil)
  built := h.built

theorem of_ite {p : Prop} [Decidable p] (h : ReportOn file subjects report)
    (due : p → Due file s f) (fine : ¬p → ∀ g, ¬Due file s g) :
    ReportOn file (subjects ++ [s]) (if p then report.push f else report) := by
  split
  · rename_i found
    exact h.push (due found)
  · rename_i found
    exact h.fine (fine found)

theorem findings_eq_iff (h : ReportOn file subjects report) :
    report.findings = findings ↔ Reports file subjects findings :=
  ⟨fun same => same ▸ h.reports, h.reports.unique⟩

theorem ok_iff (h : ReportOn file subjects report) :
    report.ok = true ↔ ∀ s ∈ subjects, Passes file s := by
  rw [h.built.tells.ok_iff]
  refine ⟨fun mild s mem f due => mild f (h.reports.mem_iff.mpr ⟨s, mem, due⟩),
    fun passes f mem => ?_⟩
  obtain ⟨s, mem, due⟩ := h.reports.mem_iff.mp mem
  exact passes s mem f due

end ReportOn

end Reports

section Names

variable {file : String} {list : NameList} {names : List String} {name : String} {i index : Nat}
  {subjects : List Subject} {report : Report} {seen : Seen}

theorem idxOf_le (there : names[i]? = some name) : names.idxOf name ≤ i := by
  induction names generalizing i with
  | nil => simp at there
  | cons other rest ih =>
      by_cases same : other = name
      · simp [same]
      · cases i with
        | zero => exact absurd (Option.some.inj there) same
        | succ i =>
            rw [List.idxOf_cons_ne _ same]
            exact Nat.succ_le_succ (ih there)

theorem isLeast_idxOf (there : names[i]? = some name) (before : names.idxOf name < index) :
    IsLeast {i | i < index ∧ names[i]? = some name} (names.idxOf name) :=
  ⟨⟨before, List.getElem?_idxOf (List.mem_of_getElem? there)⟩, fun _ h => idxOf_le h.2⟩

/-- The names of a list before `index` are kept, each with the first place it has there. -/
def Met (names : List String) (index : Nat) (seen : Seen) : Prop :=
  ∀ name first, seen.lookup name = some first ↔
    name ≠ "" ∧ IsLeast {i | i < index ∧ names[i]? = some name} first

namespace Met

theorem start : Met names 0 [] := by
  intro name first
  simp [IsLeast]

theorem exists_lookup (met : Met names index seen) (named : name ≠ "") (before : i < index)
    (there : names[i]? = some name) : ∃ first, seen.lookup name = some first :=
  ⟨_, (met name _).mpr ⟨named, isLeast_idxOf there ((idxOf_le there).trans_lt before)⟩⟩

theorem places_of_ne {other : String} (there : names[index]? = some name) (ne : other ≠ name) :
    {i | i < index + 1 ∧ names[i]? = some other} = {i | i < index ∧ names[i]? = some other} := by
  ext i
  refine and_congr_left fun there' => ⟨fun before => ?_, fun before => before.trans index.lt_succ_self⟩
  refine Nat.lt_of_le_of_ne (Nat.le_of_lt_succ before) ?_
  rintro rfl
  exact ne (Option.some.inj (there'.symm.trans there))

theorem blank (met : Met names index seen) (there : names[index]? = some "") :
    Met names (index + 1) seen := by
  intro other first
  rw [met other first]
  refine and_congr_right fun named => ?_
  rw [places_of_ne there named]

theorem again (met : Met names index seen) (there : names[index]? = some name)
    (known : seen.lookup name = some i) : Met names (index + 1) seen := by
  intro other first
  rw [met other first]
  refine and_congr_right fun named => ?_
  by_cases same : other = name
  · subst same
    obtain ⟨-, least⟩ := (met other i).mp known
    have least' : IsLeast {i | i < index + 1 ∧ names[i]? = some other} i :=
      ⟨⟨least.1.1.trans index.lt_succ_self, least.1.2⟩, fun j h => ?_⟩
    · exact ⟨fun h => least.unique h ▸ least', fun h => least'.unique h ▸ least⟩
    · rcases Nat.lt_succ_iff_lt_or_eq.mp h.1 with before | rfl
      · exact least.2 ⟨before, h.2⟩
      · exact least.1.1.le
  · rw [places_of_ne there same]

theorem first (met : Met names index seen) (there : names[index]? = some name) (named : name ≠ "")
    (unknown : seen.lookup name = none) : Met names (index + 1) (seen ++ [(name, index)]) := by
  intro other first
  rw [List.lookup_append, lookup_cons_eq, List.lookup_nil]
  by_cases same : other = name
  · subst same
    have fresh (i : Nat) (before : i < index) : names[i]? ≠ some other := by
      intro earlier
      obtain ⟨first, known⟩ := met.exists_lookup named before earlier
      cases unknown.symm.trans known
    have least : IsLeast {i | i < index + 1 ∧ names[i]? = some other} index :=
      ⟨⟨index.lt_succ_self, there⟩, fun i h => Nat.le_of_not_lt fun before => fresh i before h.2⟩
    rw [unknown, if_pos rfl, Option.none_or, Option.some_inj]
    exact ⟨fun h => ⟨named, h ▸ least⟩, fun h => least.unique h.2⟩
  · rw [if_neg same, Option.or_none, met other first, places_of_ne there same]

end Met

/-- The name of the next entry is reported on, and the entry is kept. -/
theorem checkName_keeps (h : ReportOn file subjects report) (met : Met list.names index seen)
    (there : list.names[index]? = some name) :
    let checked := checkName list.kind file list.path index name report seen
    ReportOn file (subjects ++ [.name list index]) checked.1 ∧
      Met list.names (index + 1) checked.2 := by
  rw [checkName]
  by_cases empty : name = ""
  · subst empty
    exact ⟨h.push (.noName there), met.blank there⟩
  rw [if_neg (mt String.isEmpty_iff.mp empty)]
  cases known : seen.lookup name with
  | some first =>
      exact ⟨h.push (.repeated there empty ((met name first).mp known).2), met.again there known⟩
  | none =>
      refine ⟨h.fine fun f due => ?_, met.first there empty known⟩
      cases due with
      | noName blank => exact empty (Option.some.inj (there.symm.trans blank))
      | repeated there' _ least =>
          obtain rfl := Option.some.inj (there.symm.trans there')
          obtain ⟨first, known'⟩ := met.exists_lookup empty least.1.1 least.1.2
          cases known.symm.trans known'

theorem forall_entries_iff {α : Type} {entries : List α} {P : α → Prop} :
    (∀ entry (i : Nat), entries[i]? = some entry → P entry) ↔ ∀ entry ∈ entries, P entry := by
  simp only [List.mem_iff_getElem?, forall_exists_index]

theorem passes_names_iff (list : NameList) :
    (∀ name i, list.names[i]? = some name → Passes file (.name list i)) ↔ OwnNames list.names := by
  constructor
  · intro passes
    have named : ∀ name ∈ list.names, name ≠ "" := by
      rintro _ mem rfl
      obtain ⟨i, there⟩ := List.getElem?_of_mem mem
      exact passes _ i there _ (.noName there) rfl
    refine ⟨named, List.nodup_iff_getElem?_ne_getElem?.mpr fun i j before inside same => ?_⟩
    have there : list.names[j]? = some list.names[j] := List.getElem?_eq_getElem inside
    have before' := (idxOf_le (same.trans there)).trans_lt before
    exact passes _ j there _
      (.repeated there (named _ (List.getElem_mem inside)) (isLeast_idxOf there before')) rfl
  · rintro ⟨named, distinct⟩ _ i _ f due
    cases due with
    | noName empty => exact absurd rfl (named "" (List.mem_of_getElem? empty))
    | repeated there _ least =>
        have inside := (List.getElem?_eq_some_iff.mp there).1
        exact absurd (least.1.2.trans there.symm)
          (List.nodup_iff_getElem?_ne_getElem?.mp distinct _ i least.1.1 inside)

theorem passes_entries_iff {α : Type} {kind path : String} {entries : List α}
    {nameOf : α → String} :
    (∀ entry i, entries[i]? = some entry →
        Passes file (.name ⟨kind, path, entries.map nameOf⟩ i))
      ↔ OwnNames (entries.map nameOf) := by
  rw [← passes_names_iff ⟨kind, path, entries.map nameOf⟩]
  refine ⟨fun passes name i there => ?_, fun passes entry i there => ?_⟩
  · obtain ⟨entry, there, _⟩ := Option.map_eq_some_iff.mp (List.getElem?_map.symm.trans there)
    exact passes entry i there
  · exact passes (nameOf entry) i (by simp [there])

end Names

end ClientGen.Check
