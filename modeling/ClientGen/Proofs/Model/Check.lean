import ClientGen.Proofs.Model.Findings
import Mathlib.Data.List.Induction

/-! # Checks of a model

The check of an API and the check of types find what is due and nothing else. Each is a loop over a
list of entries, with a loop over a list of their parts inside. After each round, the report tells
what is due on what has been looked at so far, and the names that are kept are those of the entries
so far, each with its first place.
-/

namespace ClientGen.Check

section Loops

variable {α β : Type} {entries : List α} {file : String} {subjects : List Subject} {report : Report}

/-- What holds before a loop and is carried on by each round holds when all entries are done. -/
theorem foldl_zipIdx {next : β → α × Nat → β} {state : β}
    (holds : Nat → List (α × Nat) → β → Prop) (start : holds 0 [] state)
    (step : ∀ i entry done state, entries[i]? = some entry → holds i done state →
      holds (i + 1) (done ++ [(entry, i)]) (next state (entry, i))) :
    holds entries.length entries.zipIdx (entries.zipIdx.foldl next state) := by
  induction entries using List.reverseRecOn with
  | nil => exact start
  | append_singleton others entry ih =>
      have before := ih fun i other done state there =>
        step i other done state (List.getElem?_append_left (List.getElem?_eq_some_iff.mp there).1 ▸ there)
      rw [List.zipIdx_append, List.foldl_append, List.length_append, Nat.zero_add]
      exact step _ entry _ _ List.getElem?_concat_length before

theorem ReportOn.foldl {check : Report → α × Nat → Report} (entries : List α)
    (looked : α × Nat → List Subject)
    (h : ReportOn file subjects report)
    (step : ∀ i entry subjects report, entries[i]? = some entry → ReportOn file subjects report →
      ReportOn file (subjects ++ looked (entry, i)) (check report (entry, i))) :
    ReportOn file (subjects ++ entries.zipIdx.flatMap looked)
      (entries.zipIdx.foldl check report) := by
  refine foldl_zipIdx (fun _ done report => ReportOn file (subjects ++ done.flatMap looked) report)
    (by simpa using h) fun i entry done report there h => ?_
  simpa using step i entry _ report there h

theorem ReportOn.foldl_names {check : Report × Seen → α × Nat → Report × Seen}
    (entries : List α) (nameOf : α → String) (looked : α × Nat → List Subject)
    (h : ReportOn file subjects report)
    (step : ∀ i entry subjects report seen, entries[i]? = some entry →
      ReportOn file subjects report → Met (entries.map nameOf) i seen →
      ReportOn file (subjects ++ looked (entry, i)) (check (report, seen) (entry, i)).1 ∧
        Met (entries.map nameOf) (i + 1) (check (report, seen) (entry, i)).2) :
    ReportOn file (subjects ++ entries.zipIdx.flatMap looked)
      (entries.zipIdx.foldl check (report, [])).1 := by
  refine (foldl_zipIdx (fun i done (state : Report × Seen) =>
    ReportOn file (subjects ++ done.flatMap looked) state.1 ∧
      Met (entries.map nameOf) i state.2) ⟨by simpa using h, .start⟩ ?_).1
  rintro i entry done ⟨report, seen⟩ there ⟨h, met⟩
  simpa using step i entry _ report seen there h met

end Loops

section Api

variable {file : String} {index inner : Nat} {method : Method} {param : Param}
  {subjects : List Subject} {report : Report} {seen : Seen}

theorem checkPackage_reports {name : String} (h : ReportOn file subjects report) :
    ReportOn file (subjects ++ [.package name]) (checkPackage file name report) := by
  refine h.of_ite (fun empty => ?_) fun named f due => ?_
  · rw [String.isEmpty_iff.mp empty]
    exact .noPackage
  · cases due
    exact named rfl

theorem checkVersion_reports (index : Nat) (method : Method) (h : ReportOn file subjects report) :
    ReportOn file (subjects ++ [.version index method])
      (checkVersion file (entryPath "$.methods" index) method report) := by
  rw [checkVersion, ← ite_not]
  refine h.of_ite (fun unknown => .unknownVersion ?_) fun known f due => ?_
  · simpa [knownVersions] using unknown
  · cases due with
    | unknownVersion unknown => exact known (by simpa [knownVersions] using unknown)

theorem checkParam_reports (h : ReportOn file subjects report) :
    ReportOn file (subjects ++ [.param index method inner param])
      (checkParam file (entryPath "$.methods" index) method report (param, inner)) := by
  refine h.of_ite (fun incomplete => .incompleteParam ?_) fun complete f due => ?_
  · simpa using incomplete
  · cases due with
    | incompleteParam incomplete => exact complete (by simpa using incomplete)

theorem checkMethod_keeps {api : Api} (there : api.methods[index]? = some method)
    (h : ReportOn file subjects report) (met : Met (methodNames api).names index seen) :
    let checked := checkMethod file (report, seen) (method, index)
    ReportOn file (subjects ++ (.name (methodNames api) index :: .version index method ::
        method.params.zipIdx.map fun (param, inner) => .param index method inner param)) checked.1 ∧
      Met (methodNames api).names (index + 1) checked.2 := by
  have there : (methodNames api).names[index]? = some method.name := by simp [methodNames, there]
  obtain ⟨named, met⟩ := checkName_keeps h met there
  have passed := (checkVersion_reports index method named).foldl method.params
    (fun (param, inner) => [.param index method inner param])
    fun _ _ _ _ _ h => checkParam_reports h
  rw [List.append_assoc, List.append_assoc, ← List.map_eq_flatMap] at passed
  exact ⟨passed, met⟩

theorem api_reportOn (api : Api) : ReportOn file (apiSubjects api) (Check.api api file) :=
  (checkPackage_reports .success).foldl_names api.methods (·.name) _
    fun _ _ _ _ _ there h met => checkMethod_keeps there h met

theorem passes_package_iff {name : String} : Passes file (.package name) ↔ name ≠ "" := by
  refine ⟨fun passes empty => ?_, fun named f due => ?_⟩
  · subst empty
    exact passes _ .noPackage rfl
  · cases due
    exact absurd rfl named

theorem passes_version : Passes file (.version index method) := by
  intro f due
  cases due
  exact Severity.noConfusion

theorem passes_param_iff :
    Passes file (.param index method inner param) ↔ param.name ≠ "" ∧ param.typeName ≠ "" := by
  rw [← not_or]
  refine ⟨fun passes incomplete => ?_, fun complete f due => ?_⟩
  · exact passes _ (.incompleteParam incomplete) rfl
  · cases due with
    | incompleteParam incomplete => exact absurd incomplete complete

theorem passes_api_iff {api : Api} : (∀ s ∈ apiSubjects api, Passes file s) ↔ UsableApi api := by
  simp only [apiSubjects, methodNames, List.forall_mem_cons, List.forall_mem_flatMap,
    List.forall_mem_map, Prod.forall, List.mk_mem_zipIdx_iff_getElem?, passes_package_iff,
    passes_version, passes_param_iff, true_and, imp_and, forall_and, passes_entries_iff,
    forall_entries_iff, usableApi_iff]

theorem ok_api_iff {api : Api} : (Check.api api file).ok = true ↔ UsableApi api :=
  (api_reportOn api).ok_iff.trans passes_api_iff

/-- The report on an API tells what is due on its package, on the name, the version and the
    parameters of each method, in this order, and nothing else. -/
theorem api_reports (api : Api) (file : String) :
    (∀ findings, (Check.api api file).findings = findings ↔
        Reports file (apiSubjects api) findings) ∧
      ((Check.api api file).ok = true ↔ UsableApi api) :=
  ⟨fun _ => (api_reportOn api).findings_eq_iff, ok_api_iff⟩

example :
    (Check.api { package := "shop", methods := ["get", "", "get", "get"].map ({ name := · }) }
        "api.json").findings.map (fun finding => (finding.code, finding.path)) =
      [("E_MISSING_FIELD", "$.methods[1].name"), ("E_DUPLICATE_SYMBOL", "$.methods[2].name"),
        ("E_DUPLICATE_SYMBOL", "$.methods[3].name")] := by
  decide +kernel

end Api

section Types

variable {file : String} {index inner : Nat} {record : RecordType} {field : Field} {enum : EnumType}
  {member : Member} {types : Types} {subjects : List Subject} {report : Report} {seen : Seen}

theorem checkType_reports (index inner : Nat) (record : RecordType) (field : Field)
    (h : ReportOn file subjects report) :
    ReportOn file (subjects ++ [.fieldType index record inner field])
      (checkType file (entryPath (entryPath "$.types" index ++ ".fields") inner) record.name field
        report) := by
  refine h.of_ite (fun empty => .noType (String.isEmpty_iff.mp empty)) fun typed f due => ?_
  cases due with
  | noType empty => exact typed (String.isEmpty_iff.mpr empty)

theorem checkField_keeps (there : record.fields[inner]? = some field)
    (h : ReportOn file subjects report) (met : Met (fieldNames index record).names inner seen) :
    let checked := checkField file (entryPath "$.types" index) record.name (report, seen)
      (field, inner)
    ReportOn file (subjects ++ [.name (fieldNames index record) inner,
        .fieldType index record inner field]) checked.1 ∧
      Met (fieldNames index record).names (inner + 1) checked.2 := by
  have there : (fieldNames index record).names[inner]? = some field.name := by
    simp [fieldNames, there]
  obtain ⟨named, met⟩ := checkName_keeps h met there
  have typed := checkType_reports index inner record field named
  rw [List.append_assoc] at typed
  exact ⟨typed, met⟩

theorem checkRecord_keeps (there : types.types[index]? = some record)
    (h : ReportOn file subjects report) (met : Met (recordNames types).names index seen) :
    let checked := checkRecord file (report, seen) (record, index)
    ReportOn file (subjects ++ (.name (recordNames types) index ::
        record.fields.zipIdx.flatMap fun (field, inner) =>
          [.name (fieldNames index record) inner, .fieldType index record inner field])) checked.1 ∧
      Met (recordNames types).names (index + 1) checked.2 := by
  have there : (recordNames types).names[index]? = some record.name := by simp [recordNames, there]
  obtain ⟨named, met⟩ := checkName_keeps h met there
  have fields := named.foldl_names record.fields (·.name)
    (fun (field, inner) => [.name (fieldNames index record) inner,
      .fieldType index record inner field])
    fun _ _ _ _ _ there h met => checkField_keeps there h met
  rw [List.append_assoc] at fields
  exact ⟨fields, met⟩

theorem checkMember_keeps (there : enum.values[inner]? = some member)
    (h : ReportOn file subjects report) (met : Met (memberNames index enum).names inner seen) :
    let checked := checkMember file (entryPath "$.enums" index ++ ".values") (report, seen)
      (member, inner)
    ReportOn file (subjects ++ [.name (memberNames index enum) inner]) checked.1 ∧
      Met (memberNames index enum).names (inner + 1) checked.2 :=
  checkName_keeps h met (show (memberNames index enum).names[inner]? = some member.name by
    simp [memberNames, there])

theorem checkEnum_keeps (there : types.enums[index]? = some enum)
    (h : ReportOn file subjects report) (met : Met (enumNames types).names index seen) :
    let checked := checkEnum file (report, seen) (enum, index)
    ReportOn file (subjects ++ (.name (enumNames types) index ::
        enum.values.zipIdx.map fun (_, inner) => .name (memberNames index enum) inner)) checked.1 ∧
      Met (enumNames types).names (index + 1) checked.2 := by
  have there : (enumNames types).names[index]? = some enum.name := by simp [enumNames, there]
  obtain ⟨named, met⟩ := checkName_keeps h met there
  have members := named.foldl_names enum.values (·.name)
    (fun (_, inner) => [.name (memberNames index enum) inner])
    fun _ member _ _ _ there h met => checkMember_keeps there h met
  rw [List.append_assoc, ← List.map_eq_flatMap] at members
  exact ⟨members, met⟩

theorem types_reportOn (types : Types) :
    ReportOn file (typesSubjects types) (Check.types types file) := by
  have records := (ReportOn.success : ReportOn file [] {}).foldl_names types.types (·.name)
    (fun entry => .name (recordNames types) entry.2 :: entry.1.fields.zipIdx.flatMap fun field =>
      [.name (fieldNames entry.2 entry.1) field.2, .fieldType entry.2 entry.1 field.2 field.1])
    fun _ _ _ _ _ there h met => checkRecord_keeps there h met
  exact records.foldl_names types.enums (·.name) _
    fun _ _ _ _ _ there h met => checkEnum_keeps there h met

theorem passes_fieldType_iff :
    Passes file (.fieldType index record inner field) ↔ field.typeName ≠ "" := by
  refine ⟨fun passes empty => ?_, fun typed f due => ?_⟩
  · exact passes _ (.noType empty) rfl
  · cases due with
    | noType empty => exact absurd empty typed

theorem passes_types_iff {types : Types} :
    (∀ s ∈ typesSubjects types, Passes file s) ↔ UsableTypes types := by
  simp only [typesSubjects, recordNames, fieldNames, enumNames, memberNames,
    List.forall_mem_append, List.forall_mem_cons, List.forall_mem_flatMap, List.forall_mem_map,
    Prod.forall, List.mk_mem_zipIdx_iff_getElem?, List.not_mem_nil, false_implies, implies_true,
    true_and, passes_fieldType_iff, imp_and, forall_and, passes_entries_iff, forall_entries_iff,
    usableTypes_iff, and_assoc]

theorem ok_types_iff {types : Types} : (Check.types types file).ok = true ↔ UsableTypes types :=
  (types_reportOn types).ok_iff.trans passes_types_iff

end Types

/-- The lists of names in described types. -/
inductive ListOf (types : Types) : NameList → Prop
  | records : ListOf types (recordNames types)
  | fields {i : Nat} {record : RecordType} (there : types.types[i]? = some record) :
      ListOf types (fieldNames i record)
  | enums : ListOf types (enumNames types)
  | members {i : Nat} {enum : EnumType} (there : types.enums[i]? = some enum) :
      ListOf types (memberNames i enum)

/-- What the check of types looks at. -/
inductive Looked (types : Types) : Subject → Prop
  | name {list : NameList} {index : Nat} (known : ListOf types list) :
      Looked types (.name list index)
  | fieldType {index inner : Nat} {record : RecordType} {field : Field} :
      Looked types (.fieldType index record inner field)

section Paths

variable {file path path' ending ending' : String} {list list' : NameList} {i j index : Nat}
  {types : Types} {f : Finding}

theorem toList_entryPath :
    (entryPath path i).toList = path.toList ++ '[' :: (Nat.toDigits 10 i ++ [']']) := by
  simp [entryPath]

theorem entryPath_inj : entryPath path i = entryPath path' j ↔ path = path' ∧ i = j := by
  refine ⟨fun same => ?_, fun ⟨same, same'⟩ => by rw [same, same']⟩
  have digits (n : Nat) : ∀ c ∈ (Nat.toDigits 10 n).reverse, c.isDigit = true := fun c mem =>
    Nat.isDigit_of_mem_toDigits (by decide) (Nat.le_refl 10) (List.mem_reverse.mp mem)
  have chars : (Nat.toDigits 10 i).reverse ++ '[' :: path.toList.reverse =
      (Nat.toDigits 10 j).reverse ++ '[' :: path'.toList.reverse := by
    simpa [toList_entryPath] using congrArg (·.toList.reverse) same
  have runs := congrArg (List.takeWhile Char.isDigit) chars
  rw [List.takeWhile_append_of_pos (digits i), List.takeWhile_append_of_pos (digits j)] at runs
  have run : (Nat.toDigits 10 i).reverse = (Nat.toDigits 10 j).reverse := by simpa using runs
  rw [run, List.append_cancel_left_eq, List.cons.injEq, List.reverse_inj,
    String.toList_inj] at chars
  refine ⟨chars.2, ?_⟩
  have value := congrArg (Nat.ofDigitChars 10 · 0) (List.reverse_inj.mp run)
  simpa [Nat.ofDigitChars_toDigits] using value

theorem append_ne_append (long : ending.length = ending'.length) (other : ending ≠ ending') :
    path ++ ending ≠ path' ++ ending' := by
  intro same
  have chars := congrArg String.toList same
  rw [String.toList_append, String.toList_append] at chars
  exact other (String.toList_injective (List.append_inj' chars long).2)

/-- The path of a list is shorter than a path inside of one with a path that is no shorter. -/
theorem ne_entryPath_append (path path' : String) (short : path.length ≤ path'.length) :
    path ≠ entryPath path' i ++ ending := by
  intro same
  have length := congrArg (·.toList.length) same
  simp only [String.toList_append, toList_entryPath, List.length_append, List.length_cons,
    String.length_toList] at length
  omega

theorem ListOf.path_inj (h : ListOf types list) (h' : ListOf types list')
    (same : list.path = list'.path) : list = list' := by
  -- The path of a list inside of another one is longer than those of the two lists at the root,
  -- and the two kinds of inner lists end with different names of the same length.
  cases h with
  | records =>
      cases h' with
      | records => rfl
      | enums => exact absurd same (show "$.types" ≠ "$.enums" by decide)
      | fields | members => exact absurd same (ne_entryPath_append "$.types" _ (by decide))
  | fields there =>
      cases h' with
      | records => exact absurd same.symm (ne_entryPath_append "$.types" _ (by decide))
      | enums => exact absurd same.symm (ne_entryPath_append "$.enums" _ (by decide))
      | fields there' =>
          obtain ⟨-, rfl⟩ := entryPath_inj.mp ((String.append_left_inj _).mp same)
          rw [Option.some.inj (there.symm.trans there')]
      | members => exact absurd same (append_ne_append (by decide) (by decide))
  | enums =>
      cases h' with
      | records => exact absurd same.symm (show "$.types" ≠ "$.enums" by decide)
      | enums => rfl
      | fields | members => exact absurd same (ne_entryPath_append "$.enums" _ (by decide))
  | members there =>
      cases h' with
      | records => exact absurd same.symm (ne_entryPath_append "$.types" _ (by decide))
      | enums => exact absurd same.symm (ne_entryPath_append "$.enums" _ (by decide))
      | fields => exact absurd same (append_ne_append (by decide) (by decide))
      | members there' =>
          obtain ⟨-, rfl⟩ := entryPath_inj.mp ((String.append_left_inj _).mp same)
          rw [Option.some.inj (there.symm.trans there')]

theorem looked_of_mem {s : Subject} (mem : s ∈ typesSubjects types) : Looked types s := by
  simp only [typesSubjects, List.mem_append, List.mem_flatMap, List.mem_cons, List.mem_map,
    Prod.exists, List.mk_mem_zipIdx_iff_getElem?, List.not_mem_nil, or_false] at mem
  obtain ⟨record, i, there, rfl | ⟨field, inner, _, rfl | rfl⟩⟩
      | ⟨enum, i, there, rfl | ⟨member, inner, _, rfl⟩⟩ := mem
  · exact .name .records
  · exact .name (.fields there)
  · exact .fieldType
  · exact .name .enums
  · exact .name (.members there)

theorem Due.path_eq (due : Due file (.name list index) f) :
    f.path = entryPath list.path index ++ ".name" := by
  cases due <;> rfl

/-- What a report says about the name of an entry is what is due on it in its own list. -/
theorem mem_typesFindings_iff (mem : .name list index ∈ typesSubjects types)
    (place : f.path = entryPath list.path index ++ ".name") :
    f ∈ (Check.types types file).findings ↔ Due file (.name list index) f := by
  rw [(types_reportOn types).reports.mem_iff]
  refine ⟨fun ⟨s, mem', due⟩ => ?_, fun due => ⟨_, mem, due⟩⟩
  cases looked_of_mem mem' with
  | name known' =>
      cases looked_of_mem mem with
      | name known =>
          obtain ⟨paths, rfl⟩ := entryPath_inj.mp
            ((String.append_left_inj _).mp (due.path_eq.symm.trans place))
          exact known'.path_inj known paths ▸ due
  | fieldType =>
      cases due
      exact absurd place (append_ne_append (by decide) (by decide))

end Paths

/-- The report on types tells what is due on each record and its fields and on each enumeration
    and its members, in this order, and nothing else. What it says about the name of an entry
    does not depend on any list but the one of the entry. -/
theorem types_reports (types : Types) (file : String) :
    (∀ findings, (Check.types types file).findings = findings ↔
        Reports file (typesSubjects types) findings) ∧
      ((Check.types types file).ok = true ↔ UsableTypes types) ∧
      ∀ list index, .name list index ∈ typesSubjects types →
        ∀ f, f.path = entryPath list.path index ++ ".name" →
          (f ∈ (Check.types types file).findings ↔ Due file (.name list index) f) :=
  ⟨fun _ => (types_reportOn types).findings_eq_iff, ok_types_iff,
    fun _ _ mem _ place => mem_typesFindings_iff mem place⟩

end ClientGen.Check
