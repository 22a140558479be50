import ClientGen.Command.Run
import ClientGen.Proofs.Model.Loading
import ClientGen.Proofs.Target.Catalogs

/-! # Which models are generated from

A generator run goes through its languages in the case in which a report on the same models
succeeds. Otherwise it fails and leaves the files as they are.
-/

namespace ClientGen

/-- A command line that names an API and describes a valid package leaves nothing open. -/
theorem Settings.exists_resolve {overrides : Overrides} {api : String}
    (given : overrides.api = some api) (valid : (sdkOf {} overrides).check = .ok ()) :
    ∃ settings, resolve {} overrides = .ok settings ∧ settings.api = api ∧
      settings.types = overrides.types ∧ settings.sdk = sdkOf {} overrides := by
  have checked : Target.checkSdk (sdkOf {} overrides) = .ok () := by
    rw [Target.checkSdk, valid]
    rfl
  have types : (overrides.types <|> none) = overrides.types := by cases overrides.types <;> rfl
  rw [resolve, given, types]
  simp only [Option.orElse_eq_orElse, Option.orElse, checked]
  exact ⟨_, rfl, rfl, rfl, rfl⟩

namespace Execution

variable {execution : Execution} {line : String} {lines : List String}

@[simp]
theorem files_print : (execution.print line).files = execution.files := rfl

@[simp]
theorem output_print : (execution.print line).output = execution.output ++ [line] := rfl

@[simp]
theorem output_printAll : (execution.printAll lines).output = execution.output ++ lines := rfl

@[simp]
theorem output_complain : (execution.complain line).output = execution.output := rfl

@[simp]
theorem output_complainError : (execution.complainError line).output = execution.output := rfl

end Execution

theorem Report.empty_not_mem_lines (report : Report) : "" ∉ report.lines := by
  simp only [lines, Finding.lines, List.mem_flatMap, List.mem_cons, List.mem_map, not_exists,
    not_and, not_or]
  simp [String.append_eq_empty_iff]

namespace Command

variable {settings : Settings} {files : Files} {execution : Execution} {api : Api} {types : Types}
  {report : Report}

/-- The models that settings name can be loaded, and there are no errors in them. -/
def Admits (files : Files) (settings : Settings) : Prop :=
  ∃ api types report,
    loadModels files settings = .ok (api, types, report) ∧ report.count .error = 0

theorem admits_iff (loaded : loadModels files settings = .ok (api, types, report)) :
    Admits files settings ↔ report.count .error = 0 := by
  refine ⟨fun ⟨_, _, _, loaded', clean⟩ => ?_, fun clean => ⟨api, types, report, loaded, clean⟩⟩
  obtain ⟨⟩ := loaded.symm.trans loaded'
  exact clean

theorem not_admits {error : ModelError} (unloaded : loadModels files settings = .error error) :
    ¬Admits files settings := by
  rintro ⟨_, _, _, loaded, _⟩
  cases unloaded.symm.trans loaded

theorem conclude_iff {types : Option Types} :
    (conclude api types report execution).1 = true ↔ report.count .error = 0 :=
  decide_eq_true_iff

theorem loadApi_formed {path content : String} {value : Json} (there : files.isFile path = true)
    (format : DocumentFormat.ofPath? path = some .json) (text : files.readText path = .ok content)
    (parsed : Json.parse content = .ok value)
    (formed : (Schema.violations .older ModelKind.api.schema value).isEmpty = true)
    (decoded : ModelKind.api.decode value = .ok api) :
    loadApi files path = .ok (api, Check.api api path) := by
  rw [loadApi, ModelKind.load_formed there format text parsed apiSchema_isOlder formed decoded]
  rfl

theorem loadModels_of_loadApi (untyped : settings.types = none)
    (described : loadApi files settings.api = .ok (api, report)) :
    loadModels files settings = .ok (api, { package := api.package }, report) := by
  rw [loadModels, described, untyped]
  rfl

/-- A report succeeds on the models that are generated from. -/
theorem reportOn_iff :
    (reportOn settings.api settings.types execution).1 = true
      ↔ Admits execution.files settings := by
  unfold reportOn
  cases described : loadApi execution.files settings.api with
  | error error =>
      have unloaded : loadModels execution.files settings = .error error := by
        rw [loadModels, described]
        rfl
      refine iff_of_false ?_ (not_admits unloaded)
      simp [described]
  | ok loaded =>
      obtain ⟨api, report⟩ := loaded
      cases named : settings.types with
      | none =>
          rw [admits_iff (loadModels_of_loadApi named described)]
          simp [described, conclude_iff]
      | some path =>
          cases defined : loadTypes execution.files path with
          | error error =>
              have unloaded : loadModels execution.files settings = .error error := by
                simp only [loadModels, described, named, bind, Except.bind, defined]
              refine iff_of_false ?_ (not_admits unloaded)
              simp [described, defined]
          | ok loaded =>
              obtain ⟨types, typesReport⟩ := loaded
              have loaded : loadModels execution.files settings
                  = .ok (api, types, report.merge typesReport) := by
                simp only [loadModels, described, named, bind, Except.bind, defined]
                rfl
              rw [admits_iff loaded]
              simp [described, defined, conclude_iff]

/-- A run that visits the requested languages, all of them if none is named, one after the other,
    from models that have been loaded and the files as they are. -/
inductive GoesThrough (settings : Settings) (files : Files) : Nat × Execution → Prop
  | intro {catalog : Catalog} {api : Api} {types : Types} {report : Report}
      {started visited : Execution} {failed : Nat} (summary : String)
      (targets : Catalog.ofBuiltins settings.sdk = .ok catalog)
      (loaded : loadModels files settings = .ok (api, types, report))
      (visits : generateLanguages catalog api types settings.output
        (requestedLanguages catalog settings) 0 started = (failed, visited))
      (untouched : started.files = files) :
      GoesThrough settings files
        (if failed = 0 then success else failure, visited.printAll ["", summary])

/-- A run through the languages ends with an empty line and a summary. -/
theorem GoesThrough.empty_mem {code : Nat} (h : GoesThrough settings files (code, execution)) :
    "" ∈ execution.output := by
  cases h with
  | intro summary =>
      rw [Execution.output_printAll]
      exact List.mem_append_right _ List.mem_cons_self

theorem generateWith_of_loadModels
    (loaded : loadModels execution.files settings = .ok (api, types, report)) :
    generateWith settings execution =
      let started :=
        (execution.print ("Generating SDKs from " ++ settings.api)).printAll report.lines
      if report.count .error = 0 then generateModels settings api types started
      else (false, started.complain ("✗ " ++ toString (report.count .error)
        ++ " validation error(s), fix them before generating")) := by
  unfold generateWith
  simp only [Execution.files_print, loaded]

theorem generateWith_of_admits {ok : Bool} {ended : Execution}
    (ran : generateWith settings execution = (ok, ended)) (valid : settings.sdk.check = .ok ())
    (admitted : Admits execution.files settings) :
    GoesThrough settings execution.files (if ok then success else failure, ended) := by
  obtain ⟨catalog, targets⟩ := Catalog.exists_ofBuiltins valid
  obtain ⟨api, types, report, loaded, clean⟩ := admitted
  simp only [generateWith_of_loadModels loaded, if_pos clean, generateModels, targets] at ran
  obtain ⟨rfl, rfl⟩ := Prod.mk.inj ran
  simp only [decide_eq_true_eq]
  exact .intro _ targets loaded rfl rfl

/-- A run that is refused changes no files, and none of its lines is empty. -/
theorem generateWith_of_not_admits (execution : Execution)
    (refused : ¬Admits execution.files settings) :
    ∃ ended, generateWith settings execution = (false, ended) ∧
      ended.files = execution.files ∧ ("" ∈ ended.output → "" ∈ execution.output) := by
  have heading : "" ≠ "Generating SDKs from " ++ settings.api := by
    simp [String.append_eq_empty_iff]
  cases loading : loadModels execution.files settings with
  | error error =>
      unfold generateWith
      simp only [Execution.files_print, loading]
      refine ⟨_, rfl, rfl, fun mem => ?_⟩
      simpa [heading] using mem
  | ok loaded =>
      obtain ⟨api, types, report⟩ := loaded
      have faulty : ¬report.count .error = 0 := mt (admits_iff loading).mpr refused
      simp only [generateWith_of_loadModels loading, if_neg faulty]
      refine ⟨_, rfl, rfl, fun mem => ?_⟩
      simpa [heading, report.empty_not_mem_lines] using mem

theorem generatePackages_eq {overrides : Overrides}
    (noSettings : execution.files.isFile SettingsFile.defaultPath = false)
    (resolved : Settings.resolve {} overrides = .ok settings) :
    generatePackages none overrides execution = generateWith settings execution := by
  have found : SettingsFile.discover execution.files none = .ok {} := by
    simp only [SettingsFile.discover, noSettings, Bool.false_eq_true, if_false]
  have settled : settingsOf execution.files none overrides = .ok settings := by
    rw [settingsOf, found]
    exact resolved
  rw [generatePackages, settled]

theorem runLine_eq {texts : List String} {command : Command} {ok : Bool} {ended : Execution}
    (asks : read texts = .ok command) (ran : command.run { files } = (ok, ended)) :
    runLine texts files = (if ok then success else failure, ended) := by
  simp only [runLine, asks, ran]

theorem runLine_eq_success_iff {texts : List String} {command : Command}
    (asks : read texts = .ok command) :
    (runLine texts files).1 = success ↔ (command.run { files }).1 = true := by
  cases ran : command.run { files } with
  | mk ok ended =>
      rw [runLine_eq asks ran]
      cases ok with
      | true => exact iff_of_true rfl rfl
      | false => exact iff_of_false Nat.one_ne_zero Bool.false_ne_true

theorem runLine_validate_iff {texts : List String}
    (checks : read texts = .ok (.validate settings.api settings.types)) :
    (runLine texts files).1 = success ↔ Admits files settings := by
  rw [runLine_eq_success_iff checks]
  exact reportOn_iff

/-- The generator goes through its languages if and only if a report on its models succeeds. A run
    that does not get there fails and leaves all files as they are. -/
theorem generate_goesThrough_iff {asked checked : List String} {overrides : Overrides}
    {api : String} (noSettings : files.isFile SettingsFile.defaultPath = false)
    (asks : read asked = .ok (.generate none overrides)) (given : overrides.api = some api)
    (checks : read checked = .ok (.validate api overrides.types))
    (valid : (Settings.sdkOf {} overrides).check = .ok ()) :
    ∃ settings, Settings.resolve {} overrides = .ok settings ∧ settings.api = api ∧
      settings.types = overrides.types ∧
      (GoesThrough settings files (runLine asked files) ↔ (runLine checked files).1 = success) ∧
      ((runLine checked files).1 ≠ success →
        (runLine asked files).1 = failure ∧ (runLine asked files).2.files = files) := by
  obtain ⟨settings, resolved, named, defined, sdk⟩ := Settings.exists_resolve given valid
  refine ⟨settings, resolved, named, defined, ?_⟩
  rw [← named, ← defined] at checks
  have accepted : (runLine checked files).1 = success ↔ Admits files settings :=
    runLine_validate_iff checks
  have started : run (.generate none overrides) { files } = generateWith settings { files } :=
    generatePackages_eq noSettings resolved
  rw [ne_eq, accepted]
  by_cases admitted : Admits files settings
  · cases ran : generateWith settings { files } with
    | mk ok ended =>
        rw [runLine_eq asks (started.trans ran)]
        have usable : settings.sdk.check = .ok () := by rw [sdk, valid]
        have through := generateWith_of_admits ran usable admitted
        exact ⟨iff_of_true through admitted, fun refused => absurd admitted refused⟩
  · obtain ⟨ended, ran, same, silent⟩ := generateWith_of_not_admits { files } admitted
    rw [runLine_eq asks (started.trans ran)]
    refine ⟨iff_of_false (fun through => ?_) admitted, fun _ => ⟨rfl, same⟩⟩
    -- Only a run through the languages prints an empty line.
    exact List.not_mem_nil (silent through.empty_mem)

/-- A working directory with an API that has no package identifier. -/
def unnamedApi : Files :=
  { entries :=
      [(["api.json"], .file "\x7b \"package\": \"\", \"methods\": [] \x7d".toUTF8)] }

theorem loadApi_unnamedApi :
    loadApi unnamedApi "api.json"
      = .ok ({ package := "" }, Check.api { package := "" } "api.json") := by
  have parsed : Json.parse "\x7b \"package\": \"\", \"methods\": [] \x7d"
      = .ok (.obj [("methods", .arr []), ("package", .str "")]) := rfl
  exact loadApi_formed (by decide) (by decide) (by decide) parsed
    (by decide) rfl

theorem loadApi_ledger (there : files.isFile "api.json" = true)
    (text : files.readText "api.json" = .ok "\x7b \"package\": \"ledger\" \x7d") :
    loadApi files "api.json"
      = .ok ({ package := "ledger" }, Check.api { package := "ledger" } "api.json") := by
  have parsed : Json.parse "\x7b \"package\": \"ledger\" \x7d"
      = .ok (.obj [("package", .str "ledger")]) := rfl
  exact loadApi_formed there (by decide) text parsed (by decide) rfl

def ledgerApi : Files :=
  { entries := [(["api.json"], .file "\x7b \"package\": \"ledger\" \x7d".toUTF8)] }

/-- A run that is refused, and one that is not. -/
theorem generate_goesThrough_iff_unnamed :
    let asked := ["generate", "--api", "api.json", "-l", "dart", "-l", "go"]
    let checked := ["validate", "--api", "api.json"]
    (runLine asked unnamedApi).1 = failure ∧ (runLine asked unnamedApi).2.files = unnamedApi ∧
      (runLine checked ledgerApi).1 = success ∧
      ∃ settings : Settings, settings.languages = ["dart", "go"] ∧
        GoesThrough settings ledgerApi (runLine asked ledgerApi) := by
  intro asked checked
  have asks : read asked =
      .ok (.generate none { api := some "api.json", languages := ["dart", "go"] }) := by
    decide
  have checks : read checked = .ok (.validate "api.json" none) := by decide
  have rejected : ¬Admits unnamedApi ⟨"api.json", none, "out", [], {}⟩ := by
    have loaded : loadModels unnamedApi ⟨"api.json", none, "out", [], {}⟩ = .ok _ :=
      loadModels_of_loadApi rfl loadApi_unnamedApi
    rw [admits_iff loaded]
    decide
  have admitted : Admits ledgerApi ⟨"api.json", none, "out", [], {}⟩ := by
    have described : loadApi ledgerApi "api.json" = .ok _ :=
      loadApi_ledger (by decide) (by decide)
    have loaded : loadModels ledgerApi ⟨"api.json", none, "out", [], {}⟩ = .ok _ :=
      loadModels_of_loadApi rfl described
    rw [admits_iff loaded]
    decide
  have refused := mt (runLine_validate_iff checks).mp rejected
  have accepted := (runLine_validate_iff checks).mpr admitted
  have bare : unnamedApi.isFile SettingsFile.defaultPath = false := by decide
  have free : ledgerApi.isFile SettingsFile.defaultPath = false := by decide
  obtain ⟨_, _, _, _, _, unchanged⟩ := generate_goesThrough_iff bare asks rfl checks rfl
  obtain ⟨settings, resolved, _, _, through, _⟩ := generate_goesThrough_iff free asks rfl checks rfl
  have languages : settings.languages = ["dart", "go"] := by
    cases resolved
    rfl
  exact ⟨(unchanged refused).1, (unchanged refused).2, accepted, settings, languages,
    through.mpr accepted⟩

end Command

end ClientGen
