import ClientGen.Proofs.Command.Admission
import ClientGen.Proofs.Command.Packages
import ClientGen.Proofs.Target.Catalogs
import ClientGen.Proofs.Target.Places

/-! # Languages of a run

A run carries out one plan for each language. No plan depends on the other languages, and the plans
are neighbours of each other, so the order of the languages does not matter and each of them
succeeds or fails as it would alone.
-/

namespace ClientGen

section Plans

variable {settings : Settings} {api : Api} {types : Types} {language : String} {target : Target}
  {here : Place}

theorem Target.wellPlaced (valid : settings.sdk.check = .ok ())
    (built : builtin language settings.sdk = .ok target) (api : Api) (types : Types) :
    WellPlaced target.layout (target.renderProject api (some types)).project := by
  have known := Target.mem_of_builtin built
  have placed := builtin_placed known valid built
  obtain ⟨form, listed, rfl⟩ := exists_form known
  obtain ⟨target, built', describes⟩ := builtin_describes listed valid
  obtain ⟨⟩ := built.symm.trans built'
  have paths := describes.renderProject_perm api types
  refine ⟨placed.directories, fun file mem => ?_, ?_, fun empty => ?_⟩
  · exact placed.descends (paths.mem_iff.mp (List.mem_map_of_mem mem))
  · rw [paths.nodup_iff, describes.paths_eq]
    exact describes.distinct
  · rw [empty] at paths
    cases paths.symm.eq_nil

/-- What a run does for a language. -/
def Plan.ofLanguage (here : Place) (settings : Settings) (api : Api) (types : Types)
    (language : String) : List Step :=
  match Target.builtin language settings.sdk with
  | .ok target =>
    Plan.package here (Path.join settings.output language) target.layout
      (target.renderProject api (some types)).project
  | .error _ => [.refused]

theorem Plan.ofLanguage_of_builtin (built : Target.builtin language settings.sdk = .ok target) :
    Plan.ofLanguage here settings api types language
      = Plan.package here (Path.join settings.output language) target.layout
        (target.renderProject api (some types)).project := by
  rw [Plan.ofLanguage, built]

theorem Target.isName_of_mem (known : language ∈ builtinLanguages) : Path.IsName language := by
  simp only [builtinLanguages, List.mem_cons, List.not_mem_nil, or_false] at known
  obtain rfl | rfl | rfl | rfl := known <;> decide

/-- The languages of a run go one way, and then each to a directory of its own. -/
theorem Plan.neighbours (here : Place) (valid : settings.sdk.check = .ok ()) (api : Api)
    (types : Types) :
    Neighbours (wayTo here settings.output) (Plan.ofLanguage here settings api types)
      (Below here settings.output) where
  noFiles place content mem := by
    rcases exists_of_mem_along mem with stopped | ⟨_, _, same, _⟩
    · cases stopped
    · cases same
  within language := by
    cases built : Target.builtin language settings.sdk with
    | ok target =>
        rw [ofLanguage_of_builtin built]
        exact package_within (Target.isName_of_mem (Target.mem_of_builtin built))
          (Target.wellPlaced valid built api types)
    | error error =>
        rw [Plan.ofLanguage, built]
        refine ⟨.inl rfl, fun mem => ?_, fun mem => ?_, fun mem => ?_⟩
        · cases List.mem_singleton.mp mem
        · cases List.mem_singleton.mp mem
        · cases List.mem_singleton.mp mem
  apart distinct own inner := by
    obtain ⟨rest, rfl⟩ := own
    obtain ⟨rest', same⟩ := inner
    rw [List.append_assoc, List.append_assoc] at same
    exact distinct (List.cons.inj (List.append_cancel_left same)).1.symm

end Plans

namespace Command

open Files

variable {settings : Settings} {catalog : Catalog} {target : Target} {language directory : String}
  {execution : Execution}

theorem generatePackage_performs (valid : settings.sdk.check = .ok ())
    (built : Target.builtin language settings.sdk = .ok target)
    (named : Path.names directory ≠ []) (api : Api) (types : Types)
    (grounded : execution.files.Grounded) :
    Performs (Plan.package execution.files.here directory target.layout
        (target.renderProject api (some types)).project) execution.files
      (generatePackage target api types directory execution).1
      (generatePackage target api types directory execution).2.files := by
  have complete : (target.renderProject api (some types)).errors = [] := by
    obtain ⟨form, listed, rfl⟩ := Target.exists_form (Target.mem_of_builtin built)
    obtain ⟨target, built', describes⟩ := Target.builtin_describes listed valid
    obtain ⟨⟩ := built.symm.trans built'
    rw [describes.renderProject_eq]
  have follows := Written.writeProject_follows (Target.wellPlaced valid built api types) named
    grounded
  rw [generatePackage]
  generalize target.renderProject api (some types) = outcome at complete follows ⊢
  generalize execution.files.writeProject directory target.layout outcome.project = written
    at follows ⊢
  obtain ⟨error, files⟩ := written
  cases error with
  | some error => exact follows
  | none =>
      simp only [complete, Outcome.isOk]
      exact follows

theorem generateLanguage_performs (targets : Catalog.ofBuiltins settings.sdk = .ok catalog)
    (valid : settings.sdk.check = .ok ()) (api : Api) (types : Types) (language : String)
    (grounded : execution.files.Grounded) :
    Performs (Plan.ofLanguage execution.files.here settings api types language) execution.files
      (generateLanguage catalog api types settings.output language execution).1
      (generateLanguage catalog api types settings.output language execution).2.files := by
  have found := Catalog.get?_ofBuiltins targets language
  rw [generateLanguage, Catalog.resolve]
  cases built : Target.builtin language settings.sdk with
  | error error =>
      rw [built] at found
      rw [found, Plan.ofLanguage, built]
      exact ⟨rfl, rfl⟩
  | ok target =>
      rw [built] at found
      rw [found, Plan.ofLanguage_of_builtin built]
      refine generatePackage_performs valid built ?_ api types grounded
      have isName := Target.isName_of_mem (Target.mem_of_builtin built)
      rw [Path.names_join _ isName.isAbsolute_eq, isName.names_eq]
      exact List.append_ne_nil_of_right_ne_nil _ (List.cons_ne_nil _ _)

/-- What going through the languages of a run comes to. -/
structure Generates (plans : String → List Step) (languages : List String) (files : Files)
    (failed : Nat) (after : Files) : Prop where
  here_eq : after.here = files.here
  get?_eq : after.get? = Plan.sweep (languages.map plans) files.get?
  failed_eq : failed = languages.countP fun language => !(Plan.run (plans language) files.get?).1

/-- Each language fails or not as it would alone. -/
theorem Generates.cons {plans : String → List Step} {way : List Step}
    {territories : String → Place → Prop} {files next after : Files} {ok : Bool} {failed : Nat}
    {languages : List String} (neighbours : Plan.Neighbours way plans territories)
    (first : Performs (plans language) files ok next)
    (rest : Generates plans languages next failed after) :
    Generates plans (language :: languages) files (if ok then failed else failed + 1) after := by
  obtain ⟨done, changed⟩ := Prod.mk.inj first.run_eq
  refine ⟨rest.here_eq.trans first.here_eq, ?_, ?_⟩
  · rw [rest.get?_eq, List.map_cons, Plan.sweep_cons, changed]
  · have alone (name : String) : (Plan.run (plans name) next.get?).1
        = (Plan.run (plans name) files.get?).1 := by
      rw [← changed]
      exact neighbours.run_sweep_fst name [language] files.get?
    rw [rest.failed_eq, List.countP_cons, done]
    simp only [alone]
    cases ok <;> rfl

theorem generateLanguages_generates (targets : Catalog.ofBuiltins settings.sdk = .ok catalog)
    (valid : settings.sdk.check = .ok ()) (api : Api) (types : Types) (languages : List String)
    (failed : Nat) {here : Place} (here_eq : execution.files.here = here)
    (grounded : execution.files.Grounded) {result : Nat × Execution}
    (ran : generateLanguages catalog api types settings.output languages failed execution
      = result) :
    ∃ count, result.1 = failed + count ∧
      Generates (Plan.ofLanguage here settings api types) languages execution.files count
        result.2.files := by
  induction languages generalizing failed execution with
  | nil =>
      subst ran
      exact ⟨0, rfl, rfl, rfl, rfl⟩
  | cons language rest ih =>
      have first := generateLanguage_performs targets valid api types language grounded
      rw [here_eq] at first
      rw [generateLanguages] at ran
      generalize generateLanguage catalog api types settings.output language execution = generated
        at first ran
      obtain ⟨ok, next⟩ := generated
      have neighbours := Plan.neighbours here valid api types
      obtain ⟨count, counted, others⟩ :=
        ih _ (first.here_eq.trans here_eq) (first.grounded grounded) ran
      refine ⟨if ok then count else count + 1, ?_, others.cons neighbours first⟩
      rw [counted]
      cases ok with
      | true => rfl
      | false => exact Nat.add_right_comm failed 1 count

variable {files : Files} {settingsFile : Option String} {overrides : Overrides} {api : Api}
  {types : Types} {report : Report}

theorem resolve_eq_ok {file : SettingsFile} :
    Settings.resolve file overrides = .ok settings ↔
      ∃ api, (overrides.api <|> file.api) = some api ∧
        (Settings.sdkOf file overrides).check = .ok () ∧
        settings = {
          api, sdk := Settings.sdkOf file overrides
          types := overrides.types <|> file.types
          output := (overrides.output <|> file.output).getD Settings.defaultOutput
          languages :=
            if overrides.languages.isEmpty then file.languages else overrides.languages } := by
  rw [Settings.resolve]
  cases (overrides.api <|> file.api) with
  | none =>
      refine ⟨fun resolved => ?_, ?_⟩
      · cases resolved
      · rintro ⟨_, missing, -⟩
        cases missing
  | some api =>
      simp only [Target.checkSdk]
      cases (Settings.sdkOf file overrides).check with
      | error fault =>
          refine ⟨fun resolved => ?_, ?_⟩
          · cases resolved
          · rintro ⟨_, _, invalid, -⟩
            cases invalid
      | ok valid =>
          refine ⟨fun resolved => ?_, ?_⟩
          · cases resolved
            exact ⟨api, rfl, rfl, rfl⟩
          · rintro ⟨_, ⟨⟩, -, rfl⟩
            rfl

theorem check_of_settingsOf (settled : settingsOf files settingsFile overrides = .ok settings) :
    settings.sdk.check = .ok () := by
  obtain ⟨file, -, resolved⟩ := Json.bind_eq_ok.mp settled
  obtain ⟨api, -, valid, rfl⟩ := resolve_eq_ok.mp resolved
  exact valid

/-- Other languages on the command line change nothing else in the settings. -/
theorem settingsOf_languages (settled : settingsOf files settingsFile overrides = .ok settings)
    {languages : List String} (named : languages ≠ []) :
    settingsOf files settingsFile { overrides with languages }
      = .ok { settings with languages } := by
  obtain ⟨file, found, resolved⟩ := Json.bind_eq_ok.mp settled
  obtain ⟨api, given, valid, rfl⟩ := resolve_eq_ok.mp resolved
  refine Json.bind_ok found (resolve_eq_ok.mpr ⟨api, given, valid, ?_⟩)
  simp [named, Settings.sdkOf]

/-- The exit code of a command, and what it leaves. -/
def carriedOut (command : Command) (files : Files) : Nat × Execution :=
  let (ok, execution) := command.run { files }
  (if ok then success else failure, execution)

theorem runLine_of_read {texts : List String} {command : Command}
    (asks : read texts = .ok command) (files : Files) :
    runLine texts files = command.carriedOut files := by
  rw [runLine, asks]
  rfl

theorem generate_generates (settled : settingsOf files settingsFile overrides = .ok settings)
    (targets : Catalog.ofBuiltins settings.sdk = .ok catalog)
    (loaded : loadModels files settings = .ok (api, types, report))
    (clean : report.count .error = 0) (grounded : files.Grounded) :
    ∃ failed, (carriedOut (.generate settingsFile overrides) files).1
        = (if failed = 0 then success else failure) ∧
      Generates (Plan.ofLanguage files.here settings api types)
        (requestedLanguages catalog settings) files failed
        (carriedOut (.generate settingsFile overrides) files).2.files := by
  have valid := check_of_settingsOf settled
  rw [carriedOut, run, generatePackages]
  unfold generateWith
  simp only [settled, Execution.files_print, loaded, if_pos clean, generateModels, targets]
  generalize started : Execution.printAll report.lines _ = execution
  obtain ⟨result, ran⟩ : ∃ result, generateLanguages catalog api types settings.output
    (requestedLanguages catalog settings) 0 execution = result := ⟨_, rfl⟩
  have same : execution.files = files := by
    rw [← started]
    rfl
  subst same
  obtain ⟨failed, counted, generates⟩ :=
    generateLanguages_generates targets valid api types _ 0 rfl grounded ran
  rw [Nat.zero_add] at counted
  rw [ran, counted]
  refine ⟨failed, ?_, generates⟩
  by_cases none : failed = 0 <;> simp [none]

/-- A run without settings or from models with errors fails, and leaves all files as they are. -/
theorem generate_refused
    (refused : ∀ settings, settingsOf files settingsFile overrides = .ok settings →
      ¬Admits files settings) :
    ∃ ended, carriedOut (.generate settingsFile overrides) files = (failure, ended) ∧
      ended.files = files := by
  rw [carriedOut, run, generatePackages]
  cases settled : settingsOf files settingsFile overrides with
  | error error => exact ⟨_, rfl, rfl⟩
  | ok settings =>
      obtain ⟨ended, ran, same, -⟩ :=
        generateWith_of_not_admits { files } (refused settings settled)
      exact ⟨ended, by simp [ran], same⟩

end Command

end ClientGen
