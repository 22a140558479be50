import ClientGen.Proofs.Command.Admission
import ClientGen.Proofs.Model.Check

/-! # Verdicts on models

Both commands count the errors in the merged report on their models. They could as well look at its
flag: whatever a report is put together from, the flag tells whether there are errors.
-/

namespace ClientGen.Command

open Report

variable {settings : Settings} {files : Files} {execution : Execution} {api : Api} {types : Types}
  {report : Report} {path : String}

theorem built_api (api : Api) (file : String) :
    Built (Check.api api file).findings (Check.api api file) :=
  (Check.api_reportOn api).built

theorem built_types (types : Types) (file : String) :
    Built (Check.types types file).findings (Check.types types file) :=
  (Check.types_reportOn types).built

theorem loadApi_eq_ok (loaded : loadApi files path = .ok (api, report)) :
    report = Check.api api path :=
  ModelKind.load_eq_ok (Json.mapError_eq_ok.mp loaded)

theorem loadTypes_eq_ok (loaded : loadTypes files path = .ok (types, report)) :
    report = Check.types types path :=
  ModelKind.load_eq_ok (Json.mapError_eq_ok.mp loaded)

/-- The report on loaded models is the one on the API, with the one on the types behind it. -/
theorem built_loadModels (loaded : loadModels files settings = .ok (api, types, report)) :
    Built report.findings report := by
  have built : ∃ given, Built given report := by
    obtain ⟨⟨api', first⟩, described, loaded⟩ := Json.bind_eq_ok.mp loaded
    obtain rfl := loadApi_eq_ok described
    cases named : settings.types with
    | none =>
        rw [named] at loaded
        cases loaded
        exact ⟨_, built_api api settings.api⟩
    | some path =>
        rw [named] at loaded
        obtain ⟨⟨types', second⟩, defined, loaded⟩ := Json.bind_eq_ok.mp loaded
        obtain rfl := loadTypes_eq_ok defined
        cases loaded
        exact ⟨_, (built_api api settings.api).merge (built_types types path)⟩
  obtain ⟨given, built⟩ := built
  rwa [built.tells.findings]

theorem reportOn_eq_ok (loaded : loadModels execution.files settings = .ok (api, types, report)) :
    (reportOn settings.api settings.types execution).1 = report.ok := by
  rw [Bool.eq_iff_iff, reportOn_iff, admits_iff loaded]
  exact (built_loadModels loaded).tells.ok_iff_count.symm

theorem generateWith_eq_ite
    (loaded : loadModels execution.files settings = .ok (api, types, report)) :
    generateWith settings execution =
      let started :=
        (execution.print ("Generating SDKs from " ++ settings.api)).printAll report.lines
      if report.ok then generateModels settings api types started
      else (false, started.complain ("✗ " ++ toString (report.count .error)
        ++ " validation error(s), fix them before generating")) := by
  simp only [generateWith_of_loadModels loaded, (built_loadModels loaded).tells.ok_iff_count]

theorem built_refused {files : Files} {path file : String} {report : Report}
    (refused : loadApi files path = .error (.api path (.violations file report)) ∨
      loadTypes files path = .error (.types path (.violations file report))) :
    Built report.findings report := by
  have built : ∃ given, Built given report := by
    rcases refused with refused | refused
    · obtain ⟨error, refused, same⟩ := Json.mapError_eq_error.mp refused
      cases same
      exact ModelKind.load_violations refused
    · obtain ⟨error, refused, same⟩ := Json.mapError_eq_error.mp refused
      cases same
      exact ModelKind.load_violations refused
  obtain ⟨given, built⟩ := built
  rwa [built.tells.findings]

/-- However a report is put together, its flag tells whether there are errors among the findings
    that it was given, and it has these findings in their order. The reports of the checks and those
    that documents are refused with are put together so, and both commands do with models what the
    flag of the report on them says. -/
theorem reports_tell :
    (∀ given report, Built given report → Tells given report ∧
      ∀ more other, Built more other →
        report.merge other = .ofFindings (report.findings ++ other.findings)) ∧
    (∀ api file, Built (Check.api api file).findings (Check.api api file)) ∧
    (∀ types file, Built (Check.types types file).findings (Check.types types file)) ∧
    (∀ files path file report,
      loadApi files path = .error (.api path (.violations file report)) ∨
        loadTypes files path = .error (.types path (.violations file report)) →
      Built report.findings report) ∧
    ∀ settings execution api types report,
      loadModels execution.files settings = .ok (api, types, report) →
      Built report.findings report ∧
      (reportOn settings.api settings.types execution).1 = report.ok ∧
      generateWith settings execution =
        let started :=
          (execution.print ("Generating SDKs from " ++ settings.api)).printAll report.lines
        if report.ok then generateModels settings api types started
        else (false, started.complain ("✗ " ++ toString (report.count .error)
          ++ " validation error(s), fix them before generating")) := by
  refine ⟨fun given report built => ⟨built.tells, fun more other => built.merge_eq⟩,
    built_api, built_types, fun files path file report refused => built_refused refused,
    fun settings execution api types report loaded => ⟨built_loadModels loaded, ?_, ?_⟩⟩
  · exact reportOn_eq_ok loaded
  · exact generateWith_eq_ite loaded

/-- A working directory with a document that does not have the form of an API. -/
def formlessApi : Files :=
  { entries := [(["api.json"], .file "[]".toUTF8)] }

/-- A warning and an error that are merged, a document that is refused, and an API without a package
    identifier. -/
theorem reports_tell_unnamed :
    let warning : Finding := ⟨Finding.unknownVersion, .warning, "", "api.json", "$", none⟩
    let error : Finding := ⟨Finding.missingField, .error, "", "api.json", "$", none⟩
    let settings : Settings := ⟨"api.json", none, "out", [], {}⟩
    ((Report.ofFindings [warning]).merge (({} : Report).push error)).ok = false ∧
      (∃ report, loadApi formlessApi "api.json"
          = .error (.api "api.json" (.violations "api.json" report)) ∧
        Built report.findings report) ∧
      ∃ api types report, loadModels unnamedApi settings = .ok (api, types, report) ∧
        report.ok = false ∧ (reportOn "api.json" none { files := unnamedApi }).1 = report.ok := by
  intro warning error settings
  obtain ⟨told, _, _, refusals, verdicts⟩ := reports_tell
  have built := (Built.listed [warning]).merge (Built.success.push error)
  have failed : ¬((Report.ofFindings [warning]).merge (({} : Report).push error)).ok = true := by
    rw [(told _ _ built).1.ok_iff]
    decide
  refine ⟨Bool.eq_false_iff.mpr failed, ?_, ?_⟩
  · have found : Schema.findings ModelKind.api.schema (.arr []) "api.json" ≠ [] :=
      mt (findings_eq_nil_iff apiSchema_isOlder).mp (by decide +kernel)
    have refused : loadApi formlessApi "api.json" = .error (.api "api.json" (.violations "api.json"
        (.ofFindings (Schema.findings ModelKind.api.schema (.arr []) "api.json")))) := by
      rw [loadApi, ModelKind.load_json (by decide) (by decide) (by decide +kernel)
        (show Json.parse "[]" = .ok (.arr []) from rfl), ModelKind.ofValue_of_findings_ne_nil found]
      rfl
    exact ⟨_, refused, refusals _ _ _ _ (.inl refused)⟩
  · have loaded : loadModels unnamedApi settings = .ok _ :=
      loadModels_of_loadApi rfl loadApi_unnamedApi
    obtain ⟨_, same, _⟩ := verdicts settings { files := unnamedApi } _ _ _ loaded
    exact ⟨_, _, _, loaded, by decide, same⟩

end ClientGen.Command
