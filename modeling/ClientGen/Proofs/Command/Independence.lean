import ClientGen.Proofs.Command.Languages

/-! # Languages are independent

What a run leaves for one of its languages is what it would have left for this language alone, and
a run succeeds if each of its languages would. So neither the order of the languages matters nor
how often one of them is named.
-/

namespace ClientGen.Command

open Files Target

variable {settings : Settings} {files after : Files} {settingsFile : Option String}
  {overrides : Overrides} {api : Api} {types : Types} {plans : String → List Step} {failed : Nat}
  {language : String} {languages : List String}

theorem mem_builtinLanguages_of_run {here : Place} {view : View}
    (done : (Plan.run (Plan.ofLanguage here settings api types language) view).1 = true) :
    language ∈ builtinLanguages := by
  cases built : builtin language settings.sdk with
  | ok target => exact Target.mem_of_builtin built
  | error error =>
      rw [Plan.ofLanguage, built] at done
      cases done

theorem Generates.success_iff (h : Generates plans languages files failed after) :
    (if failed = 0 then success else failure) = success
      ↔ ∀ language ∈ languages, (Plan.run (plans language) files.get?).1 = true := by
  have none : failed = 0
      ↔ ∀ language ∈ languages, (Plan.run (plans language) files.get?).1 = true := by
    simp [h.failed_eq, List.countP_eq_zero]
  rw [← none]
  by_cases empty : failed = 0
  · simp [empty]
  · simp [empty, success, failure]

theorem placeOf_join (isName : Path.IsName language) (files : Files) (output : String) :
    files.placeOf (Path.join output language)
      = Place.walk (Place.start files.here output) (Path.names output) ++ [language] := by
  have single : ".." ∉ [language] := mt List.mem_singleton.mp isName.ne_dots.symm
  rw [placeOf, Place.start, Place.start, Path.isAbsolute_join _ isName.isAbsolute_eq,
    Path.names_join _ isName.isAbsolute_eq, isName.names_eq, Place.walk_append,
    Place.walk_eq_append _ single]

/-- In the territory of a language, going through several leaves the files that this one leaves
    alone, and if it is carried out alone, the directories too. -/
theorem Generates.alike {way : List Step} {territories : String → Place → Prop} {place : Place}
    {alone : Files} {failed' : Nat} (together : Generates plans languages files failed after)
    (single : Generates plans [language] files failed' alone)
    (neighbours : Plan.Neighbours way plans territories) (mem : language ∈ languages)
    (own : territories language place) :
    (∀ content, after.get? place = some (.file content) ↔ alone.get? place = some (.file content)) ∧
      ((Plan.run (plans language) files.get?).1 = true → after.get? place = alone.get? place) := by
  have left := neighbours.sweep_eq mem own files.get?
  have alone_eq : alone.get? = (Plan.run (plans language) files.get?).2 := single.get?_eq
  rw [together.get?_eq, alone_eq]
  rcases left with same | ⟨stopped, nothing, directory⟩
  · rw [same]
    exact ⟨fun _ => Iff.rfl, fun _ => rfl⟩
  · refine ⟨fun content => ?_, fun done => ?_⟩
    · rw [nothing, directory]
      simp
    · rw [stopped] at done
      cases done

/-- The same run for other languages. -/
def generateIn (settingsFile : Option String) (overrides : Overrides) (languages : List String)
    (files : Files) : Nat × Execution :=
  carriedOut (.generate settingsFile { overrides with languages }) files

/-- A run that ends as going through the languages with these plans does. -/
def Through (plans : String → List Step) (languages : List String) (files : Files)
    (result : Nat × Execution) : Prop :=
  ∃ failed, result.1 = (if failed = 0 then success else failure) ∧
    Generates plans languages files failed result.2.files

theorem Through.success_iff {result : Nat × Execution}
    (h : Through plans languages files result) :
    result.1 = success ↔ ∀ language ∈ languages, (Plan.run (plans language) files.get?).1 = true := by
  obtain ⟨failed, code, generates⟩ := h
  rw [code, generates.success_iff]

/-- All runs from the same models follow the same plans, whatever languages they are for. -/
theorem exists_through (grounded : files.Grounded)
    (settled : settingsOf files settingsFile overrides = .ok settings)
    (admitted : Admits files settings) (named : settings.languages ≠ []) :
    ∃ api types,
      Through (Plan.ofLanguage files.here settings api types) settings.languages files
        (carriedOut (.generate settingsFile overrides) files) ∧
      ∀ languages, languages ≠ [] →
        Through (Plan.ofLanguage files.here settings api types) languages files
          (generateIn settingsFile overrides languages files) := by
  obtain ⟨catalog, targets⟩ := Catalog.exists_ofBuiltins (check_of_settingsOf settled)
  obtain ⟨api, types, report, loaded, clean⟩ := admitted
  refine ⟨api, types, ?_, fun languages named' => ?_⟩
  · obtain ⟨failed, code, generates⟩ := generate_generates settled targets loaded clean grounded
    rw [requestedLanguages, if_neg (by simpa using named)] at generates
    exact ⟨failed, code, generates⟩
  · obtain ⟨failed, code, generates⟩ := generate_generates (settingsOf_languages settled named')
      targets loaded clean grounded
    rw [requestedLanguages, if_neg (by simpa using named')] at generates
    exact ⟨failed, code, generates⟩

/-- A run leaves the same files for each of its languages as a run for this language alone, and if
    that one succeeds, the same directories. Runs for the same languages, in whatever order and
    however often they are named, leave the same. A run succeeds if and only if all of its languages
    are built in and succeed on their own. A tree has no links here: with one from the directory of
    a language into that of another, the two would write the same files. -/
theorem generate_languages_independent (grounded : files.Grounded)
    (settled : settingsOf files settingsFile overrides = .ok settings)
    (admitted : Admits files settings) (named : settings.languages ≠ []) :
    let together := carriedOut (.generate settingsFile overrides) files
    (∀ language ∈ settings.languages, language ∈ builtinLanguages →
      let alone := generateIn settingsFile overrides [language] files
      ∀ place, files.placeOf (Path.join settings.output language) <+: place →
        (∀ content, together.2.files.get? place = some (.file content)
          ↔ alone.2.files.get? place = some (.file content)) ∧
        (alone.1 = success → together.2.files.get? place = alone.2.files.get? place)) ∧
    (∀ languages, (∀ language, language ∈ languages ↔ language ∈ settings.languages) →
      (generateIn settingsFile overrides languages files).2.files.get?
        = together.2.files.get?) ∧
    (together.1 = success
      ↔ ∀ language ∈ settings.languages, language ∈ builtinLanguages ∧
        (generateIn settingsFile overrides [language] files).1 = success) := by
  intro together
  obtain ⟨api, types, whole, ran⟩ := exists_through grounded settled admitted named
  have neighbours := Plan.neighbours files.here (check_of_settingsOf settled) api types
  have succeeds (language : String) :
      (generateIn settingsFile overrides [language] files).1 = success
        ↔ (Plan.run (Plan.ofLanguage files.here settings api types language) files.get?).1 = true := by
    rw [(ran [language] (List.cons_ne_nil _ _)).success_iff, List.forall_mem_singleton]
  refine ⟨?_, ?_, ?_⟩
  · intro language mem known alone place below
    obtain ⟨_, -, generates⟩ := whole
    obtain ⟨_, -, single⟩ := ran [language] (List.cons_ne_nil _ _)
    rw [placeOf_join (isName_of_mem known)] at below
    rw [succeeds]
    exact generates.alike single neighbours mem below
  · intro languages same
    have named' : languages ≠ [] := by
      rintro rfl
      exact named (List.eq_nil_iff_forall_not_mem.mpr fun language mem =>
        List.not_mem_nil ((same language).mpr mem))
    obtain ⟨_, -, generates⟩ := whole
    obtain ⟨_, -, others⟩ := ran languages named'
    rw [others.get?_eq, generates.get?_eq]
    exact neighbours.sweep_eq_of_mem_iff same files.get?
  · rw [whole.success_iff]
    refine forall₂_congr fun language _ => ?_
    rw [succeeds]
    exact ⟨fun done => ⟨mem_builtinLanguages_of_run done, done⟩, And.right⟩

/-- A working directory with an API, and with a file where the Python package would go. -/
def obstructed : Files :=
  { entries :=
      [(["api.json"], .file "\x7b \"package\": \"ledger\" \x7d".toUTF8),
        (["out"], .directory), (["out", "python"], .file "".toUTF8)] }

theorem loadApi_obstructed :
    loadApi obstructed "api.json"
      = .ok ({ package := "ledger" }, Check.api { package := "ledger" } "api.json") :=
  loadApi_ledger (by decide +kernel) (by decide +kernel)

theorem generate_languages_independent_obstructed :
    let overrides : Overrides :=
      { api := some "api.json", output := some "out", languages := ["rust", "python", "rust"] }
    let settings : Settings :=
      { api := "api.json", types := none, output := "out", languages := ["rust", "python", "rust"],
        sdk := {} }
    obstructed.Grounded ∧ settingsOf obstructed none overrides = .ok settings ∧
      Admits obstructed settings ∧ settings.languages ≠ [] ∧
      (carriedOut (.generate none overrides) obstructed).2.files.get?
        = (generateIn none overrides ["python", "rust"] obstructed).2.files.get? := by
  intro overrides settings
  have same (language : String) :
      language ∈ ["python", "rust"] ↔ language ∈ settings.languages := by
    simp only [settings, List.mem_cons, List.not_mem_nil, or_false]
    grind
  have grounded : obstructed.Grounded := rfl
  have settled : settingsOf obstructed none overrides = .ok settings := by decide +kernel
  have loaded : loadModels obstructed settings = .ok _ :=
    loadModels_of_loadApi rfl loadApi_obstructed
  have admitted := (admits_iff loaded).mpr (by decide +kernel)
  have named : settings.languages ≠ [] := List.cons_ne_nil _ _
  obtain ⟨-, reordered, -⟩ := generate_languages_independent grounded settled admitted named
  exact ⟨grounded, settled, admitted, named, (reordered ["python", "rust"] same).symm⟩

end ClientGen.Command
