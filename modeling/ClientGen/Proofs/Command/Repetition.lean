import ClientGen.Proofs.Command.Languages
import ClientGen.Proofs.Files.Reading

/-! # Repeated runs

A run writes to no files but those of the packages it generates, and takes nothing away. So unless
it writes over what it reads, a second run reads the same, plans the same and changes nothing.
-/

namespace ClientGen.Command

open Files Target

variable {settings : Settings} {files after : Files} {settingsFile : Option String}
  {overrides : Overrides} {api : Api} {types : Types} {report : Report} {language path : String}
  {place : Place} {content : ByteArray}

/-- The places where a run with these settings puts files. -/
inductive Places (files : Files) (settings : Settings) : Place → Prop
  | intro {language path : String} {target : Target}
      (requested : settings.languages = [] ∨ language ∈ settings.languages)
      (built : builtin language settings.sdk = .ok target) (mem : path ∈ target.paths) :
      Places files settings
        (files.placeOf (Path.join (Path.join settings.output language) path))

theorem file_mem_ofLanguage (valid : settings.sdk.check = .ok ())
    (mem : .file place content ∈ Plan.ofLanguage files.here settings api types language) :
    ∃ target path, builtin language settings.sdk = .ok target ∧ path ∈ target.paths ∧
      place = files.placeOf (Path.join (Path.join settings.output language) path) := by
  cases built : builtin language settings.sdk with
  | error error =>
      rw [Plan.ofLanguage, built] at mem
      cases List.mem_singleton.mp mem
  | ok target =>
      have known := Target.mem_of_builtin built
      have isName := isName_of_mem known
      have placed := wellPlaced valid built api types
      rw [Plan.ofLanguage_of_builtin built] at mem
      obtain ⟨file, listed, rfl, -⟩ := Plan.file_mem_package isName placed mem
      obtain ⟨form, inForms, rfl⟩ := exists_form known
      obtain ⟨target, built', describes⟩ := builtin_describes inForms valid
      obtain ⟨⟩ := built.symm.trans built'
      have paths := (describes.renderProject_perm api types).mem_iff.mp (List.mem_map_of_mem listed)
      refine ⟨target, file.1, rfl, paths, ?_⟩
      rw [placeOf, Plan.walk_joined isName (placed.files file listed)]

theorem getLast?_append {ending : String} {c : Char} (ends : ending.toList.getLast? = some c)
    (front : String) : (front ++ ending).toList.getLast? = some c := by
  rw [String.toList_append, List.getLast?_append, ends]
  rfl

/-- No path of a package ends like the settings file that is read when no other is named. -/
theorem getLast?_path {target : Target} (valid : settings.sdk.check = .ok ())
    (built : builtin language settings.sdk = .ok target) (mem : path ∈ target.paths) :
    path.toList.getLast? ≠ some 'n' := by
  have known := Target.mem_of_builtin built
  simp only [builtinLanguages, List.mem_cons, List.not_mem_nil, or_false] at known
  obtain rfl | rfl | rfl | rfl := known
  · rw [(Dart.places_eq built).2] at mem
    simp only [List.mem_cons, List.not_mem_nil, or_false] at mem
    obtain rfl | rfl | rfl | rfl := mem
    · rw [getLast?_append (show _ = some 't' from rfl)]
      decide
    · decide
    · decide
    · decide
  · rw [(Python.places_eq valid built).2] at mem
    simp only [List.mem_cons, List.not_mem_nil, or_false] at mem
    obtain rfl | rfl | rfl | rfl | rfl := mem
    · rw [getLast?_append (show _ = some 'y' from rfl)]
      decide
    · rw [getLast?_append (show _ = some 'y' from rfl)]
      decide
    · decide
    · rw [getLast?_append (show _ = some 'y' from rfl)]
      decide
    · rw [getLast?_append (show _ = some 'y' from rfl)]
      decide
  · rw [(Rust.places_eq built).2] at mem
    simp only [List.mem_cons, List.not_mem_nil, or_false] at mem
    obtain rfl | rfl | rfl | rfl | rfl := mem <;> decide
  · rw [(Go.places_eq built).2] at mem
    simp only [List.mem_cons, List.not_mem_nil, or_false] at mem
    obtain rfl | rfl | rfl | rfl := mem <;> decide

theorem placeOf_defaultPath (files : Files) :
    files.placeOf SettingsFile.defaultPath = files.here ++ [SettingsFile.defaultPath] := by
  have named : Path.names SettingsFile.defaultPath = [SettingsFile.defaultPath] := by
    decide
  have inside : ".." ∉ [SettingsFile.defaultPath] := by decide
  rw [placeOf, named, Place.walk_eq_append _ inside]
  rfl

theorem not_places_defaultPath (valid : settings.sdk.check = .ok ()) :
    ¬Places files settings (files.placeOf SettingsFile.defaultPath) := by
  generalize same : files.placeOf SettingsFile.defaultPath = place
  rintro ⟨-, built, mem⟩
  rename_i language path target
  have known := Target.mem_of_builtin built
  have inside := (builtin_placed known valid built).descends mem
  obtain ⟨front, name, isName, rfl, before, named⟩ := inside.exists_last
  rw [placeOf_defaultPath, placeOf, Plan.walk_joined (isName_of_mem known) inside, named,
    ← List.cons_append, ← List.append_assoc] at same
  have last : SettingsFile.defaultPath = name :=
    (List.cons.inj (List.append_inj' same rfl).2).1
  refine getLast?_path valid built mem ?_
  rw [← last]
  exact getLast?_append rfl front

theorem isFile_defaultPath (grounded : files.Grounded) :
    files.isFile SettingsFile.defaultPath = true ↔
      ∃ content, files.get? (files.placeOf SettingsFile.defaultPath) = some (.file content) := by
  have usable : Path.isUsable SettingsFile.defaultPath = true := by decide
  have named : Path.names SettingsFile.defaultPath = [] ++ [SettingsFile.defaultPath] := by
    decide
  have short : Place.fits SettingsFile.defaultPath = true := by decide
  have located := locate_of_stands usable named grounded (.nil _)
  rw [short, if_pos rfl] at located
  rw [isFile, find?]
  cases found : files.get? (files.placeOf SettingsFile.defaultPath) with
  | none =>
      rw [found] at located
      simp [located, found]
  | some entry =>
      cases entry with
      | file content =>
          have noDirectory : Path.namesDirectory SettingsFile.defaultPath = false := by
            decide
          rw [found] at located
          simp only [noDirectory] at located
          simp [located, found]
      | directory =>
          rw [found] at located
          simp [located, found]

section Again

variable {α : Type}

theorem load_again {file : SettingsFile} (kept : Keeps files after)
    (untouched : Untouched files after (files.placeOf path))
    (loaded : SettingsFile.load files path = .ok file) :
    SettingsFile.load after path = .ok file := by
  obtain ⟨text, read, -⟩ := Json.bind_eq_ok.mp loaded
  obtain ⟨same, -⟩ := kept.readText_eq (Json.mapError_eq_ok.mp read) untouched
  rw [← loaded, SettingsFile.load, SettingsFile.load, same]

theorem settingsOf_again (kept : Keeps files after) (grounded : files.Grounded)
    (grounded' : after.Grounded)
    (untouched : ∀ path, settingsFile = some path → Untouched files after (files.placeOf path))
    (default : Untouched files after (files.placeOf SettingsFile.defaultPath))
    (settled : settingsOf files settingsFile overrides = .ok settings) :
    settingsOf after settingsFile overrides = .ok settings := by
  obtain ⟨file, found, resolved⟩ := Json.bind_eq_ok.mp settled
  refine Json.bind_ok (Json.mapError_eq_ok.mpr ?_) resolved
  have found := Json.mapError_eq_ok.mp found
  cases settingsFile with
  | some path => exact load_again kept (untouched path rfl) found
  | none =>
      have same : after.isFile SettingsFile.defaultPath = files.isFile SettingsFile.defaultPath := by
        rw [Bool.eq_iff_iff, isFile_defaultPath grounded', isFile_defaultPath grounded, placeOf,
          kept.here_eq, ← placeOf]
        exact exists_congr default
      rw [SettingsFile.discover] at found ⊢
      rw [same]
      split at found
      · rename_i there
        rw [if_pos there]
        exact load_again kept default found
      · rename_i absent
        rw [if_neg absent]
        exact found

theorem loadModel_again {kind : ModelKind α} {model : α × Report} (kept : Keeps files after)
    (untouched : Untouched files after (files.placeOf path))
    (loaded : kind.load files path = .ok model) :
    kind.load after path = kind.load files path := by
  have read : ∃ text, files.readText path = .ok text := by
    simp only [ModelKind.load] at loaded
    split at loaded
    · cases loaded
    · split at loaded
      · cases loaded
      · obtain ⟨text, read, -⟩ := Json.bind_eq_ok.mp loaded
        exact ⟨text, Json.mapError_eq_ok.mp read⟩
  obtain ⟨text, read⟩ := read
  obtain ⟨same, there⟩ := kept.readText_eq read untouched
  rw [ModelKind.load, ModelKind.load, same, there]

theorem loadModels_again {models : Api × Types × Report} (kept : Keeps files after)
    (untouchedApi : Untouched files after (files.placeOf settings.api))
    (untouchedTypes : ∀ path, settings.types = some path →
      Untouched files after (files.placeOf path))
    (loaded : loadModels files settings = .ok models) : loadModels after settings = .ok models := by
  have loaded' := loaded
  obtain ⟨api, described, rest⟩ := Json.bind_eq_ok.mp loaded'
  have sameApi := loadModel_again kept untouchedApi (Json.mapError_eq_ok.mp described)
  rw [← loaded, loadModels, loadModels, loadApi, loadApi, sameApi]
  cases named : settings.types with
  | none => rfl
  | some path =>
      rw [named] at rest
      obtain ⟨types, defined, -⟩ := Json.bind_eq_ok.mp rest
      have sameTypes :=
        loadModel_again kept (untouchedTypes path named) (Json.mapError_eq_ok.mp defined)
      simp only [loadTypes, sameTypes]

end Again

section Runs

variable {catalog : Catalog}

theorem places_of_mem (valid : settings.sdk.check = .ok ())
    (mem : .file place content ∈ ((requestedLanguages catalog settings).map
      (Plan.ofLanguage files.here settings api types)).flatten) : Places files settings place := by
  obtain ⟨plan, listed, mem⟩ := List.mem_flatten.mp mem
  obtain ⟨language, requested, rfl⟩ := List.mem_map.mp listed
  obtain ⟨target, path, built, named, rfl⟩ := file_mem_ofLanguage valid mem
  refine .intro ?_ built named
  rw [requestedLanguages] at requested
  split at requested
  · rename_i all
    exact .inl (List.isEmpty_iff.mp all)
  · exact .inr requested

/-- Every run of the generator keeps to a plan that puts files at the places of packages only. -/
theorem generate_change (grounded : files.Grounded) (settingsFile : Option String)
    (overrides : Overrides) :
    ∃ plan : List Step,
      (∀ place content, .file place content ∈ plan →
        ∃ settings, settingsOf files settingsFile overrides = .ok settings ∧
          Places files settings place) ∧
      ∀ place, Plan.Change plan place (files.get? place)
        ((carriedOut (.generate settingsFile overrides) files).2.files.get? place) := by
  by_cases through : ∃ settings, settingsOf files settingsFile overrides = .ok settings ∧
    Admits files settings
  · obtain ⟨settings, settled, api, types, report, loaded, clean⟩ := through
    have valid := check_of_settingsOf settled
    obtain ⟨catalog, targets⟩ := Catalog.exists_ofBuiltins valid
    obtain ⟨failed, -, generates⟩ := generate_generates settled targets loaded clean grounded
    refine ⟨((requestedLanguages catalog settings).map
      (Plan.ofLanguage files.here settings api types)).flatten, ?_, fun place => ?_⟩
    · exact fun place content mem => ⟨settings, settled, places_of_mem valid mem⟩
    · rw [generates.get?_eq]
      exact Plan.sweep_change _ _ place
  · have refused := generate_refused fun settings settled admitted =>
      through ⟨settings, settled, admitted⟩
    obtain ⟨ended, ran, same⟩ := refused
    rw [ran]
    simp only [same]
    exact ⟨[], fun _ _ mem => absurd mem List.not_mem_nil, fun place => .same _⟩

theorem Generates.keeps {plans : String → List Step} {languages : List String} {failed : Nat}
    (h : Generates plans languages files failed after) : Keeps files after := by
  refine ⟨h.here_eq, fun place there => ?_⟩
  have changed := Plan.sweep_change (languages.map plans) files.get? place
  rw [← h.get?_eq, there] at changed
  exact changed.of_directory

theorem Generates.untouched {failed : Nat} (valid : settings.sdk.check = .ok ())
    (h : Generates (Plan.ofLanguage files.here settings api types)
      (requestedLanguages catalog settings) files failed after)
    (apart : ¬Places files settings place) : Untouched files after place := by
  have changed := Plan.sweep_change ((requestedLanguages catalog settings).map
    (Plan.ofLanguage files.here settings api types)) files.get? place
  rw [← h.get?_eq] at changed
  exact changed.file_iff fun content mem => apart (places_of_mem valid mem)

/-- Going through the same languages once more fails as often and changes nothing. -/
theorem Generates.again {way : List Step} {plans : String → List Step}
    {territories : String → Place → Prop} {languages : List String} {failed failed' : Nat}
    {last : Files} (neighbours : Plan.Neighbours way plans territories)
    (first : Generates plans languages files failed after)
    (second : Generates plans languages after failed' last) :
    failed' = failed ∧ last.get? = after.get? := by
  refine ⟨?_, ?_⟩
  · rw [second.failed_eq, first.failed_eq, first.get?_eq]
    simp only [neighbours.run_sweep_fst]
  · rw [second.get?_eq, first.get?_eq]
    exact neighbours.sweep_again languages files.get?

theorem refused_again (refused : ∀ settings,
      settingsOf files settingsFile overrides = .ok settings → ¬Admits files settings) :
    let first := carriedOut (.generate settingsFile overrides) files
    carriedOut (.generate settingsFile overrides) first.2.files = first := by
  intro first
  obtain ⟨ended, ran, same⟩ := generate_refused refused
  have first_eq : first = (failure, ended) := ran
  rw [first_eq, same, ran]

/-- A run that writes over nothing it reads does nothing more when it is repeated. -/
theorem generate_again (grounded : files.Grounded)
    (apart : ∀ settings, settingsOf files settingsFile overrides = .ok settings →
      ∀ path, settingsFile = some path ∨ settings.api = path ∨ settings.types = some path →
        ¬Places files settings (files.placeOf path)) :
    let first := carriedOut (.generate settingsFile overrides) files
    let second := carriedOut (.generate settingsFile overrides) first.2.files
    second.1 = first.1 ∧ second.2.files.get? = first.2.files.get? := by
  intro first second
  by_cases through : ∃ settings, settingsOf files settingsFile overrides = .ok settings ∧
    Admits files settings
  · obtain ⟨settings, settled, api, types, report, loaded, clean⟩ := through
    have valid := check_of_settingsOf settled
    obtain ⟨catalog, targets⟩ := Catalog.exists_ofBuiltins valid
    obtain ⟨failed, code, generates⟩ := generate_generates settled targets loaded clean grounded
    have kept : Keeps files first.2.files := generates.keeps
    have grounded' : first.2.files.Grounded := by
      rw [Grounded, kept.here_eq]
      exact kept.directory _ grounded
    have untouched {place : Place} (apart : ¬Places files settings place) :
        Untouched files first.2.files place := generates.untouched valid apart
    -- the second run has the settings and the models of the first
    have apart := apart settings settled
    have settled' : settingsOf first.2.files settingsFile overrides = .ok settings :=
      settingsOf_again kept grounded grounded'
        (fun path named => untouched (apart path (.inl named)))
        (untouched (not_places_defaultPath valid)) settled
    have loaded' : loadModels first.2.files settings = .ok (api, types, report) :=
      loadModels_again kept (untouched (apart _ (.inr (.inl rfl))))
        (fun path named => untouched (apart path (.inr (.inr named)))) loaded
    obtain ⟨failed', code', generates'⟩ :=
      generate_generates settled' targets loaded' clean grounded'
    rw [kept.here_eq] at generates'
    obtain ⟨sameFailures, sameFiles⟩ :=
      generates.again (Plan.neighbours files.here valid api types) generates'
    refine ⟨?_, sameFiles⟩
    rw [code, code', sameFailures]
  · have same : second = first := refused_again fun settings settled admitted =>
      through ⟨settings, settled, admitted⟩
    rw [same]
    exact ⟨rfl, rfl⟩

theorem reportOn_files (api : String) (types : Option String) (execution : Execution) :
    (reportOn api types execution).2.files = execution.files := by
  unfold reportOn
  dsimp only
  split
  · rfl
  · split
    · rfl
    · split <;> rfl

-- The function is unfolded as a whole: applied, it would have its catalog evaluated.
theorem files_of_listLanguages {list : Execution → Bool × Execution} (same : list = listLanguages)
    (execution : Execution) : (list execution).2.files = execution.files := by
  delta listLanguages at same
  generalize Catalog.ofBuiltins {} = catalog at same
  subst same
  cases catalog with
  | error error => rfl
  | ok catalog => rfl

theorem carriedOut_snd (command : Command) (files : Files) :
    (carriedOut command files).2 = (command.run { files }).2 := rfl

theorem carriedOut_files {command : Command}
    (other : ∀ settingsFile overrides, command ≠ .generate settingsFile overrides)
    (files : Files) : (carriedOut command files).2.files = files := by
  rw [carriedOut_snd]
  cases command with
  | help => rfl
  | version => rfl
  | list =>
      rw [run]
      exact files_of_listLanguages rfl { files }
  | generate settingsFile overrides => exact absurd rfl (other settingsFile overrides)
  | validate api types => exact reportOn_files api types { files }
  | schema kind => rfl

end Runs

/-- A command line asks for a run of the generator with these settings. -/
def Asks (texts : List String) (files : Files) (settingsFile : Option String)
    (settings : Settings) : Prop :=
  ∃ overrides, read texts = .ok (.generate settingsFile overrides) ∧
    settingsOf files settingsFile overrides = .ok settings

/-- A command line asks for a run of the generator, or leaves all files as they are. -/
theorem runLine_cases (texts : List String) (files : Files) :
    (∃ settingsFile overrides, read texts = .ok (.generate settingsFile overrides) ∧
      ∀ files, runLine texts files = carriedOut (.generate settingsFile overrides) files) ∨
      (runLine texts files).2.files = files := by
  cases asks : read texts with
  | error error =>
      rw [runLine, asks]
      exact .inr rfl
  | ok command =>
      by_cases generates : ∃ settingsFile overrides, command = .generate settingsFile overrides
      · obtain ⟨settingsFile, overrides, rfl⟩ := generates
        exact .inl ⟨settingsFile, overrides, rfl, runLine_of_read asks⟩
      · rw [runLine_of_read asks]
        exact .inr (carriedOut_files (fun file overrides same =>
          generates ⟨file, overrides, same⟩) files)

theorem runLine_change (grounded : files.Grounded) (texts : List String) :
    ∃ plan : List Step,
      (∀ place content, .file place content ∈ plan →
        ∃ settingsFile settings, Asks texts files settingsFile settings ∧
          Places files settings place) ∧
      ∀ place, Plan.Change plan place (files.get? place)
        ((runLine texts files).2.files.get? place) := by
  rcases runLine_cases texts files with ⟨settingsFile, overrides, asks, ran⟩ | same
  · obtain ⟨plan, own, changed⟩ := generate_change grounded settingsFile overrides
    refine ⟨plan, fun place content mem => ?_, ?_⟩
    · obtain ⟨settings, settled, there⟩ := own place content mem
      exact ⟨settingsFile, settings, ⟨overrides, asks, settled⟩, there⟩
    · rw [ran]
      exact changed
  · rw [same]
    exact ⟨[], fun _ _ mem => absurd mem List.not_mem_nil, fun place => .same _⟩

/-- No command line ever removes anything, or makes a directory of a file or a file of a directory.
    A file that is new or another one than before belongs to the package of a built-in language that
    the command line asks for. If neither the settings file nor the API nor the types are such a
    file, the same command line once more gives the same exit code and changes nothing. -/
theorem runLine_keeps_to_packages (grounded : files.Grounded) (texts : List String) :
    let first := runLine texts files
    let second := runLine texts first.2.files
    (∀ place, files.get? place = some .directory →
      first.2.files.get? place = some .directory) ∧
    (∀ place content, files.get? place = some (.file content) →
      ∃ content, first.2.files.get? place = some (.file content)) ∧
    (∀ place content, first.2.files.get? place = some (.file content) →
      files.get? place ≠ some (.file content) →
      ∃ settingsFile settings, Asks texts files settingsFile settings ∧
        Places files settings place) ∧
    ((∀ settingsFile settings, Asks texts files settingsFile settings →
        ∀ path, settingsFile = some path ∨ settings.api = path ∨ settings.types = some path →
          ¬Places files settings (files.placeOf path)) →
      second.1 = first.1 ∧ second.2.files.get? = first.2.files.get?) := by
  intro first second
  obtain ⟨plan, own, changed⟩ := runLine_change grounded texts
  refine ⟨fun place there => ?_, fun place content there => ?_, fun place content there new => ?_,
    fun apart => ?_⟩
  · have changed := changed place
    rw [there] at changed
    exact changed.of_directory
  · have changed := changed place
    rw [there] at changed
    exact changed.of_file
  · by_contra foreign
    have untouched := (changed place).file_iff fun content mem =>
      foreign (own place content mem)
    exact new ((untouched content).mp there)
  · rcases runLine_cases texts files with ⟨settingsFile, overrides, asks, ran⟩ | same
    · have again := generate_again grounded
        fun settings (settled : settingsOf files settingsFile overrides = .ok settings) =>
          apart settingsFile settings ⟨overrides, asks, settled⟩
      simp only [← ran] at again
      exact again
    · have again : second = first := by
        show runLine texts first.2.files = first
        rw [show first.2.files = files from same]
      rw [again]
      exact ⟨rfl, rfl⟩

/-- A working directory with an API. -/
def ledger : Files :=
  { entries := [(["api.json"], .file "\x7b \"package\": \"ledger\" \x7d".toUTF8)] }

def ledgerLine : List String :=
  ["generate", "--api", "api.json", "-l", "go", "-o", "out"]

theorem runLine_keeps_to_packages_ledger :
    ledger.Grounded ∧
      (runLine ledgerLine (runLine ledgerLine ledger).2.files).1 = (runLine ledgerLine ledger).1 ∧
      (runLine ledgerLine (runLine ledgerLine ledger).2.files).2.files.get?
        = (runLine ledgerLine ledger).2.files.get? := by
  have grounded : ledger.Grounded := rfl
  obtain ⟨-, -, -, again⟩ := runLine_keeps_to_packages grounded ledgerLine
  refine ⟨grounded, again fun settingsFile settings asked path read => ?_⟩
  obtain ⟨overrides, asks, settled⟩ := asked
  have reads : Command.read ledgerLine = .ok (.generate none
      { api := some "api.json", output := some "out", languages := ["go"] }) := by decide
  obtain ⟨rfl, rfl⟩ := Command.generate.inj (Except.ok.inj (asks.symm.trans reads))
  have resolved : settingsOf ledger none
      { api := some "api.json", output := some "out", languages := ["go"] }
      = .ok { api := "api.json", types := none, output := "out", languages := ["go"], sdk := {} } := by
    decide
  obtain rfl := Except.ok.inj (settled.symm.trans resolved)
  obtain rfl : "api.json" = path := by simpa using read
  generalize there : ledger.placeOf "api.json" = place
  rintro ⟨-, built, mem⟩
  rename_i language path target
  have known := Target.mem_of_builtin built
  have inside := (builtin_placed known Sdk.default_check built).descends mem
  have source : ledger.placeOf "api.json" = ["api.json"] := by decide
  have outer : Place.walk (Place.start ledger.here "out") (Path.names "out") = ["out"] := by
    decide
  rw [source, placeOf, Plan.walk_joined (isName_of_mem known) inside, outer] at there
  exact absurd (List.cons.inj there).1 (by decide)

end ClientGen.Command
