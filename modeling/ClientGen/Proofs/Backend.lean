import ClientGen.Proofs.Project

/-! # Failures of a backend

Whatever a backend does, one file that fails costs just that file. What has been written of it is
dropped, its error is kept, and every other file is as if nothing had failed.
-/

namespace ClientGen

/-- Files in the order in which they are tried, each with its text or with its error. -/
abbrev Attempts := List (String × Except GenerationError String)

namespace Attempts

variable {path text : String} {attempts : Attempts}

/-- The files that have a text. -/
def rendered (attempts : Attempts) : List (String × String) :=
  attempts.filterMap fun (path, text) => text.toOption.map (path, ·)

def failure? : Except GenerationError String → Option GenerationError
  | .ok _ => none
  | .error error => some error

def failures (attempts : Attempts) : List GenerationError :=
  attempts.filterMap (failure? ·.2)

theorem rendered_ok (files : List (String × String)) :
    rendered (files.map fun (path, text) => (path, .ok text)) = files := by
  simp [rendered, List.filterMap_map, Except.toOption]

theorem failures_ok (files : List (String × String)) :
    failures (files.map fun (path, text) => (path, .ok text)) = [] := by
  simp [failures, List.filterMap_map, failure?]

theorem failures_cons (attempt : String × Except GenerationError String) (rest : Attempts) :
    failures (attempt :: rest) = (failure? attempt.2).toList ++ failures rest := by
  obtain ⟨path, text | error⟩ := attempt <;> rfl

theorem mem_rendered_iff : (path, text) ∈ rendered attempts ↔ (path, .ok text) ∈ attempts := by
  constructor
  · intro mem
    obtain ⟨⟨other, result⟩, mem, shown⟩ := List.mem_filterMap.mp mem
    cases result with
    | error error => cases shown
    | ok text => cases shown; exact mem
  · intro mem
    exact List.mem_filterMap.mpr ⟨_, mem, rfl⟩

theorem length_rendered_add_failures (attempts : Attempts) :
    (rendered attempts).length + (failures attempts).length = attempts.length := by
  induction attempts with
  | nil => rfl
  | cons attempt rest ih =>
      obtain ⟨path, text | error⟩ := attempt <;>
        simp only [rendered, failures, List.filterMap_cons, failure?, Except.toOption,
          Option.map_some, Option.map_none, List.length_cons] at ih ⊢ <;> omega

theorem rendered_paths_sublist (attempts : Attempts) :
    ((rendered attempts).map (·.1)).Sublist (attempts.map (·.1)) := by
  induction attempts with
  | nil => exact .slnil
  | cons attempt rest ih =>
      obtain ⟨path, text | error⟩ := attempt
      · exact ih.cons _
      · exact ih.cons_cons _

/-- A file is the last one with a text of those of its path if it comes last of these. -/
theorem lookup_reverse_rendered :
    (rendered attempts).reverse.lookup path = some text ↔
      ∃ before behind, attempts = before ++ (path, .ok text) :: behind ∧
        ∀ other, (path, .ok other) ∉ behind := by
  rw [lookup_reverse_eq_some_iff]
  constructor
  · rintro ⟨before, behind, split, last⟩
    obtain ⟨front, rest, rfl, -, tried⟩ := List.filterMap_eq_append_iff.mp split
    obtain ⟨failed, ⟨other, result⟩, tail, rfl, -, shown, rfl⟩ := List.filterMap_eq_cons_iff.mp tried
    cases result with
    | error error => cases shown
    | ok text =>
        cases shown
        refine ⟨front ++ failed, tail, (List.append_assoc ..).symm, fun other mem => last ?_⟩
        exact List.mem_map_of_mem (mem_rendered_iff.mpr mem)
  · rintro ⟨before, behind, rfl, last⟩
    refine ⟨rendered before, rendered behind, List.filterMap_append, fun mem => ?_⟩
    obtain ⟨⟨_, other⟩, kept, rfl⟩ := List.mem_map.mp mem
    exact last other (mem_rendered_iff.mp kept)

end Attempts

open Attempts

namespace Outcome

theorem foldl_record (attempts : Attempts) (outcome : Outcome) :
    attempts.foldl (fun outcome attempt => outcome.record attempt.1 attempt.2) outcome
      = ⟨⟨Project.insertFiles (rendered attempts) outcome.project.files⟩,
          outcome.errors ++ failures attempts⟩ := by
  induction attempts generalizing outcome with
  | nil => exact congrArg (Outcome.mk _) (List.append_nil _).symm
  | cons attempt rest ih =>
      obtain ⟨path, text | error⟩ := attempt
      · exact (ih _).trans (congrArg (Outcome.mk _) (List.append_assoc ..))
      · exact ih _

end Outcome

namespace Backend

/-- What a backend tries: the client, the types if there are any, and the additional files. -/
def attempts (backend : Backend) (api : Api) (types : Option Types) : Attempts :=
  (backend.clientPath, (backend.emitClient api).text)
    :: ((types.map fun types => (backend.typesPath, (backend.emitTypes types).text)).toList
      ++ backend.additional.map fun file => (file.path, backend.emitAdditional file))

theorem renderProject_eq (backend : Backend) (api : Api) (types : Option Types) :
    backend.renderProject api types
      = ⟨⟨Project.insertFiles (rendered (backend.attempts api types)) []⟩,
          failures (backend.attempts api types)⟩ := by
  have folded : backend.renderProject api types
      = (backend.attempts api types).foldl
          (fun outcome attempt => outcome.record attempt.1 attempt.2) {} := by
    cases types <;> simp [renderProject, attempts, List.foldl_map]
  rw [folded, Outcome.foldl_record]
  rfl

theorem failure?_text (emitted : Emitted) : failure? emitted.text = emitted.error? := by
  unfold Emitted.text
  cases emitted.error? <;> rfl

theorem failure?_emitAdditional (backend : Backend) (file : AdditionalFile) :
    failure? (backend.emitAdditional file)
      = match backend.renderAdditional file with
        | .ok _ => none
        | .error error => some (.badRendering backend.language .additional file.path error) := by
  rw [emitAdditional]
  cases backend.renderAdditional file <;> rfl

theorem failures_attempts (backend : Backend) (api : Api) (types : Option Types) :
    failures (backend.attempts api types)
      = (backend.emitClient api).error?.toList
        ++ (types.bind fun types => (backend.emitTypes types).error?).toList
        ++ backend.additional.filterMap fun file => failure? (backend.emitAdditional file) := by
  have additional : failures (backend.additional.map
        fun file => (file.path, backend.emitAdditional file))
      = backend.additional.filterMap fun file => failure? (backend.emitAdditional file) :=
    List.filterMap_map
  cases types <;> simp [attempts, failures_cons, failure?_text, additional]

/-- What is written of each file that a backend tries, in order. An additional file is written all at
    once. -/
def emissions (backend : Backend) (api : Api) (types : Option Types) : List (String × Emitted) :=
  (backend.clientPath, backend.emitClient api)
    :: ((types.map fun types => (backend.typesPath, backend.emitTypes types)).toList
      ++ backend.additional.map fun file => (file.path, .ofText (backend.emitAdditional file)))

theorem attempts_eq_emissions (backend : Backend) (api : Api) (types : Option Types) :
    backend.attempts api types
      = (backend.emissions api types).map fun entry => (entry.1, entry.2.text) := by
  cases types <;> simp [attempts, emissions, Emitted.text_ofText]

theorem text_eq_ok_iff {emitted : Emitted} {text : String} : emitted.text = .ok text ↔
    emitted.error? = none ∧ Text.Utf8.read emitted.written = text := by
  rw [Emitted.text]
  cases emitted.error? <;> simp

theorem text_ne_ok_iff {emitted : Emitted} :
    (∀ text, emitted.text ≠ .ok text) ↔ emitted.error? ≠ none := by
  simp [text_eq_ok_iff]

/-- A file that was written without an error is the last one of its path if each later one of the
    path failed. -/
theorem last_emitted_iff {emissions : List (String × Emitted)} {path text : String} :
    (∃ before behind, emissions.map (fun entry => (entry.1, entry.2.text))
        = before ++ (path, .ok text) :: behind ∧ ∀ other, (path, .ok other) ∉ behind) ↔
      ∃ before emitted behind, emissions = before ++ (path, emitted) :: behind ∧
        emitted.error? = none ∧ Text.Utf8.read emitted.written = text ∧
        ∀ other, (path, other) ∈ behind → other.error? ≠ none := by
  constructor
  · rintro ⟨_, _, split, last⟩
    obtain ⟨before, rest, rfl, rfl, tried⟩ := List.map_eq_append_iff.mp split
    obtain ⟨⟨_, emitted⟩, behind, rfl, shown, rfl⟩ := List.map_eq_cons_iff.mp tried
    obtain ⟨rfl, written⟩ := Prod.mk.inj shown
    obtain ⟨clean, read⟩ := text_eq_ok_iff.mp written
    refine ⟨before, emitted, behind, rfl, clean, read, fun other mem => ?_⟩
    exact text_ne_ok_iff.mp fun text same => last text
      (List.mem_map.mpr ⟨_, mem, congrArg (Prod.mk _) same⟩)
  · rintro ⟨before, emitted, behind, rfl, clean, read, last⟩
    refine ⟨_, _, by rw [List.map_append, List.map_cons, text_eq_ok_iff.mpr ⟨clean, read⟩], ?_⟩
    intro other mem
    obtain ⟨⟨_, later⟩, there, same⟩ := List.mem_map.mp mem
    obtain ⟨rfl, written⟩ := Prod.mk.inj same
    exact last later there (text_eq_ok_iff.mp written).1

/-- Every file that fails gives its own error, in the order of the files, and nothing else does.
    A path holds what was written of the last file that was written there without an error, and
    nothing if there is no such file. If no two files share a path, each file that was tried is there
    or has given an error. -/
theorem renderProject_isolates (backend : Backend) (api : Api) (types : Option Types) :
    let outcome := backend.renderProject api types
    let emissions := backend.emissions api types
    outcome.errors
        = (backend.emitClient api).error?.toList
          ++ (types.bind fun types => (backend.emitTypes types).error?).toList
          ++ backend.additional.filterMap (fun file =>
              match backend.renderAdditional file with
              | .ok _ => none
              | .error error => some (.badRendering backend.language .additional file.path error)) ∧
      Project.Ordered outcome.project.files ∧
      (∀ path text, outcome.project.get? path = some text ↔
        ∃ before emitted behind, emissions = before ++ (path, emitted) :: behind ∧
          emitted.error? = none ∧ Text.Utf8.read emitted.written = text ∧
          ∀ other, (path, other) ∈ behind → other.error? ≠ none) ∧
      ((emissions.map (·.1)).Nodup →
        outcome.project.size + outcome.errors.length = emissions.length) := by
  rw [renderProject_eq]
  refine ⟨?_, .insertFiles .nil _, fun path text => ?_, fun distinct => ?_⟩
  · exact (failures_attempts backend api types).trans (by simp only [failure?_emitAdditional])
  · rw [Project.get?, Project.lookup_insertFiles, List.lookup_nil, Option.or_none,
      lookup_reverse_rendered, attempts_eq_emissions]
    exact last_emitted_iff
  · have paths : (backend.attempts api types).map (·.1)
        = (backend.emissions api types).map (·.1) := by
      rw [attempts_eq_emissions, List.map_map]
      rfl
    have tried : (backend.attempts api types).length = (backend.emissions api types).length := by
      rw [attempts_eq_emissions, List.length_map]
    have apart : ((rendered (backend.attempts api types) ++ ([] : List (String × String))).map
        (·.1)).Nodup := by
      rw [List.append_nil]
      exact (rendered_paths_sublist _).nodup (paths ▸ distinct)
    rw [Project.size, (Project.insertFiles_perm apart).length_eq, List.append_nil, ← tried]
    exact length_rendered_add_failures _

/-- A backend that fails half way through its client and on one of its two other files. -/
def broken : Backend where
  language := "broken"
  clientPath := "client.txt"
  typesPath := "types.txt"
  additional := [⟨"README", "\x7b\x7b title \x7d\x7d", none⟩, ⟨"LICENSE", "MIT", none⟩]
  emitClient _ :=
    { written := "class ".toUTF8
      error? := some (.badRendering "broken" .client "client.txt" { kind := .undefinedValue }) }
  emitTypes _ := .ofText (.ok "types")
  renderAdditional file :=
    if file.path = "README" then .error { kind := .undefinedValue } else .ok file.template

theorem renderProject_isolates_broken :
    let outcome := broken.renderProject { package := "" } (some { package := "" })
    outcome.errors.map (·.message)
        = ["failed to render client file 'client.txt' for broken: undefined value",
          "failed to render additional file 'README' for broken: undefined value"] ∧
      outcome.project.get? "client.txt" = none ∧
      outcome.project.get? "types.txt" = some "types" ∧
      outcome.project.size + outcome.errors.length = 4 := by
  obtain ⟨errors, -, held, counted⟩ :=
    renderProject_isolates broken { package := "" } (some { package := "" })
  have tried : broken.emissions { package := "" } (some { package := "" })
      = [("client.txt", broken.emitClient { package := "" })]
        ++ ("types.txt", .ofText (.ok "types"))
        :: [("README", .ofText (broken.emitAdditional broken.additional[0])),
          ("LICENSE", .ofText (broken.emitAdditional broken.additional[1]))] := rfl
  refine ⟨?_, ?_, (held _ _).mpr ⟨_, _, _, tried, rfl, ?_, ?_⟩, counted (by decide)⟩
  · rw [errors]
    rfl
  · refine Option.eq_none_iff_forall_ne_some.mpr fun text found => ?_
    obtain ⟨before, emitted, behind, split, clean, -⟩ := (held _ _).mp found
    have mem : ("client.txt", emitted) ∈ before ++ ("client.txt", emitted) :: behind :=
      List.mem_append_right _ List.mem_cons_self
    rw [← split, tried] at mem
    obtain ⟨rfl⟩ : emitted = broken.emitClient { package := "" } := by simpa using mem
    cases clean
  · exact Text.Utf8.read_toByteArray "types"
  · simp

end Backend

end ClientGen
