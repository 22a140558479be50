import ClientGen.Proofs.Sdk
import ClientGen.Proofs.Target.SettingUp

/-! # Additional files

Templates of additional files can be rendered with the shared functions, or with what a target adds
to them: functions and values of its own, and the templates of the client and the types. A template
that mentions none of the names and asks for none of the templates cannot tell the difference.
-/

namespace ClientGen.Target

open Template

/-- The environment has values and functions of the given names besides the shared ones, and
    stores the templates of the client and the types. -/
structure Widens (names : List String) (env : Environment) : Prop where
  globals : ∃ added, added.map (·.1) = names ∧ env.globals = added ++ Environment.standard.globals
  templates : env.templates.map (·.1) = [typesName, clientName]

variable {names : List String} {env : Environment} {language : String} {sdk : Sdk}

theorem Widens.beside (h : Widens names env) :
    Environment.Beside names [typesName, clientName] .standard env where
  globals_eq free := by
    obtain ⟨added, rfl, globals⟩ := h.globals
    rw [globals, List.lookup_append, lookup_eq_none free, Option.none_or]
  templates_eq free := lookup_eq_none (h.templates ▸ free)

theorem Dart.environment_widens : Widens (addedNames Dart.language) Dart.environment where
  globals := ⟨Dart.helpers.globals.take 7, rfl, rfl⟩
  templates := rfl

theorem Python.environment_widens : Widens (addedNames Python.language) Python.environment where
  globals := ⟨Python.helpers.globals.take 6, rfl, rfl⟩
  templates := rfl

theorem Rust.environment_widens : Widens (addedNames Rust.language) Rust.environment where
  globals := ⟨Rust.helpers.globals.take 6, rfl, rfl⟩
  templates := rfl

theorem Go.environment_widens : Widens (addedNames Go.language) (Go.environment sdk) where
  globals := ⟨(Go.helpers sdk).globals.take 6, rfl, rfl⟩
  templates := rfl

theorem Dart.target_environment (valid : sdk.check = .ok ()) :
    ∃ t, Dart.target sdk = .ok t ∧ t.additionalEnvironment = Dart.environment := by
  have environments : addTemplates Dart.language Dart.clientTemplate Dart.typesTemplate Dart.helpers
      = .ok Dart.environment := addTemplates_eq Dart.clientReading Dart.typesReading
  exact ⟨_, by rw [Dart.target, checkSdk_eq valid, ok_bind, environments]; rfl, rfl⟩

theorem Python.target_environment (valid : sdk.check = .ok ()) :
    ∃ t, Python.target sdk = .ok t ∧ t.additionalEnvironment = Python.environment := by
  have environments : addTemplates Python.language Python.clientTemplate Python.typesTemplate
      Python.helpers = .ok Python.environment := addTemplates_eq Python.clientReading Python.typesReading
  exact ⟨_, by rw [Python.target, checkSdk_eq valid, ok_bind, environments]; rfl, rfl⟩

theorem Rust.target_environment (valid : sdk.check = .ok ()) :
    ∃ t, Rust.target sdk = .ok t ∧ t.additionalEnvironment = Rust.environment := by
  have environments : addTemplates Rust.language Rust.clientTemplate Rust.typesTemplate Rust.helpers
      = .ok Rust.environment := addTemplates_eq Rust.clientReading Rust.typesReading
  exact ⟨_, by rw [Rust.target, checkSdk_eq valid, ok_bind, environments]; rfl, rfl⟩

theorem Go.target_environment (valid : sdk.check = .ok ()) :
    ∃ t, Go.target sdk = .ok t ∧ t.additionalEnvironment = Go.environment sdk := by
  have environments : addTemplates Go.language Go.clientTemplate Go.typesTemplate (Go.helpers sdk)
      = .ok (Go.environment sdk) := addTemplates_eq Go.clientReading Go.typesReading
  exact ⟨_, by rw [Go.target, checkSdk_eq valid, ok_bind, environments]; rfl, rfl⟩

/-- The environment of a target is what the interpreter makes of its requests. -/
theorem builtin_setUp (known : language ∈ builtinLanguages) (valid : sdk.check = .ok ()) :
    ∃ target, builtin language sdk = .ok target ∧
      Widens (addedNames language) target.additionalEnvironment ∧
      (setUp Environment.engine Environment.engine.standard
        (requests Environment.engine sdk language)).map (·.1) = .ok target.additionalEnvironment := by
  rw [setUp_val, Environment.standard_val]
  simp only [builtinLanguages, List.mem_cons, List.not_mem_nil, or_false] at known
  obtain rfl | rfl | rfl | rfl := known
  · obtain ⟨target, built, same⟩ := Dart.target_environment valid
    exact ⟨target, built, same ▸ Dart.environment_widens, same ▸ Dart.performed_requests⟩
  · obtain ⟨target, built, same⟩ := Python.target_environment valid
    exact ⟨target, built, same ▸ Python.environment_widens, same ▸ Python.performed_requests⟩
  · obtain ⟨target, built, same⟩ := Rust.target_environment valid
    exact ⟨target, built, same ▸ Rust.environment_widens, same ▸ Rust.performed_requests⟩
  · obtain ⟨target, built, same⟩ := Go.target_environment valid
    exact ⟨target, built, same ▸ Go.environment_widens, same ▸ Go.performed_requests⟩

/-- The data that the template of an additional file sees. -/
def dataOf (file : AdditionalFile) : Json :=
  file.data.getD (.obj [])

/-- The text of an additional file, with a set of templates of any engine. -/
def renderWith (E : Engine) (set : E.Env) (file : AdditionalFile) : Except E.Error String :=
  E.renderText set file.template (E.ofJson (dataOf file))

/-- The template of an additional file mentions none of the names, cannot show all names, and asks
    for none of the templates when it is rendered with the shared functions. -/
def KeepsTo (E : Engine) (names templates : List String) (file : AdditionalFile) : Prop :=
  ∀ body, E.read Engine.adHoc file.template = .ok body →
    names.Disjoint (E.mentions body) ∧ "debug" ∉ E.mentions body ∧
      ¬E.AsksFor E.standard templates Engine.adHoc body (E.ofJson (dataOf file))

theorem renderWith_eq {E : Engine} (stores : E.Stores) (observes : E.Observes)
    (known : language ∈ builtinLanguages) {set : E.Env}
    (done : setUp E E.standard (requests E sdk language) = .ok set) {file : AdditionalFile}
    (apart : KeepsTo E (addedNames language) [typesName, clientName] file) :
    renderWith E set file = renderWith E E.standard file := by
  obtain rfl := setUp_eq_after done
  rw [renderWith, renderWith, Engine.renderText, Engine.renderText]
  cases read : E.read Engine.adHoc file.template with
  | error error => rfl
  | ok body =>
      obtain ⟨free, plain, unasked⟩ := apart body read
      have bindings (id : String) (fresh : id ∉ addedNames language) :
          E.binding? (E.after E.standard (requests E sdk language)) id
            = E.binding? E.standard id := by
        rw [stores.binding?_run, lastBinding_requests known fresh, Option.none_or]
      have templates (id : String) (fresh : id ∉ [typesName, clientName]) :
          E.template? (E.after E.standard (requests E sdk language)) id
            = E.template? E.standard id := by
        rw [stores.template?_run, lastBody_requests known fresh, Option.none_or]
      refine observes.run_eq bindings templates (fun seen => ?_) unasked
      obtain ⟨used, rfl | ⟨id, stored⟩, name, mentioned, named | rfl⟩ :=
        observes.mentions_of_looksUp seen
      · exact free named mentioned
      · exact plain mentioned
      all_goals
        rw [stores.template?_standard] at stored
        cases stored

theorem renderWith_val (env : PlainEnvironment) (file : AdditionalFile) :
    renderWith Environment.engine env file = file.render env.1 :=
  Environment.renderText_eq_renderText env file.template _

theorem renderAdditional_eq {target : Target} (widens : Widens names target.additionalEnvironment)
    {file : AdditionalFile} (free : names.Disjoint (mentioned file.template))
    (apart : Environment.standard.includes [typesName, clientName] file.template
      (.ofJson (dataOf file)) = false) :
    target.renderAdditional file = file.render .standard := by
  rw [mentioned] at free
  rw [Environment.includes] at apart
  rw [Target.renderAdditional, AdditionalFile.render, AdditionalFile.render, Environment.renderText,
    Environment.renderText]
  have unmentioned : Environment.standard.Unmentioned names := by
    intro name stmts found
    cases found
  cases read : Stmt.readAll Environment.adHoc file.template with
  | error error => rfl
  | ok stmts =>
      rw [read] at free apart
      exact Environment.run_eq_of_beside widens.beside Environment.standard_avoids unmentioned free
        (Value.avoids_ofJson _) apart

/-- A target renders an additional file just as the shared functions do, text or error, if its
    template mentions none of the names that the target adds and asks for none of its templates.
    This holds of any engine whose runs know their environments only by what they look up and ask
    for, and of the interpreter, which is such an engine. -/
theorem renderAdditional_conservative (known : language ∈ builtinLanguages) :
    (∀ E : Engine, E.Stores → E.Observes → ∀ sdk set,
      setUp E E.standard (requests E sdk language) = .ok set →
      ∀ file, KeepsTo E (addedNames language) [typesName, clientName] file →
        renderWith E set file = renderWith E E.standard file) ∧
    ∀ sdk : Sdk, sdk.check = .ok () →
      ∃ target, builtin language sdk = .ok target ∧
        Widens (addedNames language) target.additionalEnvironment ∧
        (setUp Environment.engine Environment.engine.standard
            (requests Environment.engine sdk language)).map (·.1)
          = .ok target.additionalEnvironment ∧
        ∀ file : AdditionalFile, (addedNames language).Disjoint (mentioned file.template) →
          Environment.standard.includes [typesName, clientName] file.template
            (.ofJson (dataOf file)) = false →
          target.renderAdditional file = file.render .standard := by
  refine ⟨fun E stores observes sdk set done file apart =>
    renderWith_eq stores observes known done apart, fun sdk valid => ?_⟩
  obtain ⟨target, built, widens, same⟩ := builtin_setUp known valid
  exact ⟨target, built, widens, same, fun file free apart => renderAdditional_eq widens free apart⟩

/-- A template with a loop over its data, in the environment of a target and, as requests to the
    interpreter, in the set that they come to. -/
theorem renderAdditional_conservative_rust :
    let file : AdditionalFile := {
      path := "names.txt",
      template := "\x7b% for n in names %\x7d\x7b\x7b camelCase(n) \x7d\x7d\x7b% endfor %\x7d",
      data := some (.obj [("names", .arr [.str "GetBalance"])]) }
    let E := Environment.engine
    "rust" ∈ builtinLanguages ∧ ({} : Sdk).check = .ok () ∧ E.Stores ∧ E.Observes ∧
      KeepsTo E (addedNames "rust") [typesName, clientName] file ∧
      (∃ set, setUp E E.standard (requests E {} "rust") = .ok set ∧
        renderWith E set file = .ok "getBalance") ∧
      (addedNames "rust").Disjoint (mentioned file.template) ∧
      Environment.standard.includes [typesName, clientName] file.template (.ofJson (dataOf file))
        = false ∧
      ∃ target, builtin "rust" {} = .ok target ∧
        target.renderAdditional file = .ok "getBalance" := by
  intro file E
  have known : "rust" ∈ builtinLanguages := by decide
  have free : ∀ name ∈ addedNames "rust", name ∉ mentioned file.template := by decide +kernel
  have plain : "debug" ∉ mentioned file.template := by decide +kernel
  have apart : Environment.standard.includes [typesName, clientName] file.template
      (.ofJson (dataOf file)) = false := by decide +kernel
  have shared : file.render .standard = .ok "getBalance" := by decide +kernel
  have keeps : KeepsTo E (addedNames "rust") [typesName, clientName] file := by
    intro stmts (read : Stmt.readAll Environment.adHoc file.template = .ok stmts)
    rw [mentioned, read] at free plain
    rw [Environment.includes, read] at apart
    refine ⟨fun name => free name, plain, fun asked => ?_⟩
    change Environment.engine.standard.1.asksFor _ _ _ _ = true at asked
    rw [Environment.standard_val] at asked
    exact Bool.false_ne_true (apart.symm.trans asked)
  have stores : E.Stores := Environment.engine_stores
  have observes : E.Observes := Environment.engine_observes
  obtain ⟨general, running⟩ := renderAdditional_conservative known
  obtain ⟨target, built, -, environment, same⟩ := running {} Sdk.default_check
  obtain ⟨set, done⟩ : ∃ set, setUp E E.standard (requests E {} "rust") = .ok set := by
    cases done : setUp E E.standard (requests E {} "rust") with
    | error error => rw [done] at environment; cases environment
    | ok set => exact ⟨set, rfl⟩
  refine ⟨known, Sdk.default_check, stores, observes, keeps, ⟨set, done, ?_⟩, fun name => free name,
    apart, target, built, ?_⟩
  · rw [general E stores observes {} set done file keeps, renderWith_val, Environment.standard_val,
      shared]
  · rw [same file (fun name => free name) apart, shared]

/-- A template that mentions nothing at all, but includes the types if there are any. -/
theorem renderAdditional_conservative_include :
    let file : AdditionalFile := {
      path := "types.txt", template := "\x7b% include \"types\" ignore missing %\x7d",
      data := some (.obj [("types",
        .obj [("package", .str "ledger"), ("types", .arr []), ("enums", .arr [])])]) }
    (addedNames "dart").Disjoint (mentioned file.template) ∧ file.render .standard = .ok "" ∧
      ∃ target, builtin "dart" {} = .ok target ∧ target.renderAdditional file
        = .ok ("// Code generated by sdkgen. DO NOT EDIT.\n// Source: ledger\n\n"
          ++ "import 'dart:typed_data';\n") := by
  intro file
  have free : ∀ name ∈ addedNames "dart", name ∉ mentioned file.template := by decide +kernel
  obtain ⟨target, built, environment⟩ := Dart.target_environment Sdk.default_check
  refine ⟨fun name => free name, by decide +kernel, target, built, ?_⟩
  rw [Target.renderAdditional, environment]
  decide +kernel

end ClientGen.Target
