import ClientGen.Proofs.Backend
import ClientGen.Proofs.Target.Dart.Sources
import ClientGen.Proofs.Target.Go.Sources
import ClientGen.Proofs.Target.Python.Sources
import ClientGen.Proofs.Target.Rust.Sources
import ClientGen.Target.Builtin

/-! # Emission

What the built-in targets generate from any model whatsoever: a whole package without errors,
whose client is written method by method and whose types are written type by type.
-/

namespace ClientGen.Target

/-- The forms of packages, in the order of the built-in languages. -/
def builtinForms : List PackageForm :=
  [Dart.packageForm, Python.packageForm, Rust.packageForm, Go.packageForm]

theorem exists_form {language : String} (known : language ∈ builtinLanguages) :
    ∃ form ∈ builtinForms, form.client.language = language := by
  have listed : builtinForms.map (·.client.language) = builtinLanguages := rfl
  rw [← listed] at known
  exact List.mem_map.mp known

theorem form_eq_of_language {form other : PackageForm} (known : form ∈ builtinForms)
    (listed : other ∈ builtinForms) (same : form.client.language = other.client.language) :
    form = other :=
  have distinct : (builtinForms.map (·.client.language)).Nodup := by
    show builtinLanguages.Nodup
    decide
  List.inj_on_of_nodup_map distinct known listed same

theorem builtin_describes {form : PackageForm} (known : form ∈ builtinForms) {sdk : Sdk}
    (valid : sdk.check = .ok ()) :
    ∃ target, builtin form.client.language sdk = .ok target ∧ form.Describes sdk target := by
  simp only [builtinForms, List.mem_cons, List.not_mem_nil, or_false] at known
  obtain rfl | rfl | rfl | rfl := known
  · exact Dart.target_describes valid
  · exact Python.target_describes valid
  · exact Rust.target_describes valid
  · exact Go.target_describes valid

theorem builtinForms_showsParts {form : PackageForm} (known : form ∈ builtinForms) :
    form.types.record.ShowsParts ∧ form.types.enum.ShowsParts := by
  simp only [builtinForms, List.mem_cons, List.not_mem_nil, or_false] at known
  obtain rfl | rfl | rfl | rfl := known
  · exact ⟨Dart.recordForm_showsParts, Dart.enumForm_showsParts⟩
  · exact ⟨Python.recordForm_showsParts, Python.enumForm_showsParts⟩
  · exact ⟨Rust.recordForm_showsParts, Rust.enumForm_showsParts⟩
  · exact ⟨Go.recordForm_showsParts, Go.enumForm_showsParts⟩

section Packages

variable {form : PackageForm} {sdk : Sdk} {target : Target}

namespace PackageForm

/-- The files of a package with their texts. -/
def files (form : PackageForm) (sdk : Sdk) (api : Api) (types : Option Types) :
    List (String × String) :=
  (form.clientPath sdk, form.client.client sdk api)
    :: ((types.map fun types => (form.typesPath sdk, form.types.source sdk types)).toList
      ++ form.additional sdk)

theorem files_map_fst (form : PackageForm) (sdk : Sdk) (api : Api) (types : Types) :
    (form.files sdk api (some types)).map (·.1) = form.paths sdk := by
  simp [files, paths]

/-- Without types, the files are those whose path is not that of the types. -/
theorem filter_files (distinct : (form.paths sdk).Nodup) (api : Api) (types : Types) :
    (form.files sdk api (some types)).filter (·.1 != form.typesPath sdk)
      = form.files sdk api none := by
  simp only [paths, List.nodup_cons, List.mem_cons, not_or] at distinct
  obtain ⟨⟨client, -⟩, additional, -⟩ := distinct
  have kept : (form.additional sdk).filter (·.1 != form.typesPath sdk) = form.additional sdk := by
    refine List.filter_eq_self.mpr fun file mem => ?_
    simp only [bne_iff_ne]
    intro same
    exact additional (same ▸ List.mem_map_of_mem mem)
  simp [files, client, kept]

namespace Describes

theorem paths_eq (h : form.Describes sdk target) :
    target.clientPath :: target.typesPath :: target.additional.map (·.path)
      = form.paths sdk := by
  have additional : target.additional.map (·.path) = (form.additional sdk).map (·.1) := by
    have rendered := h.additional
    generalize target.additional = sources at rendered ⊢
    generalize form.additional sdk = texts at rendered ⊢
    induction rendered with
    | nil => rfl
    | cons file _ ih => rw [List.map_cons, List.map_cons, file.1, ih]
  rw [additional, h.clientPath, h.typesPath, paths]

theorem attempts_eq (h : form.Describes sdk target) (api : Api) (types : Option Types) :
    target.backend.attempts api types
      = (form.files sdk api types).map fun (path, text) => (path, .ok text) := by
  have additional : target.backend.additional.map
        (fun file => (file.path, target.backend.emitAdditional file))
      = (form.additional sdk).map fun (path, text) => (path, .ok text) := by
    have rendered := h.additional
    change target.additional.map _ = _
    generalize target.additional = sources at rendered ⊢
    generalize form.additional sdk = texts at rendered ⊢
    induction rendered with
    | nil => rfl
    | cons file _ ih => rw [List.map_cons, List.map_cons, file.1, file.2, ih]
  rw [Backend.attempts, additional]
  cases types <;>
    simp [files, Target.backend, Emitted.text_ofText, h.emitClient, h.emitTypes, h.clientPath,
      h.typesPath]

theorem renderProject_eq (h : form.Describes sdk target) (api : Api) (types : Option Types) :
    target.renderProject api types
      = ⟨⟨Project.insertFiles (form.files sdk api types) []⟩, []⟩ := by
  rw [Target.renderProject, Backend.renderProject_eq, h.attempts_eq, Attempts.rendered_ok,
    Attempts.failures_ok]

theorem renderProject_none (h : form.Describes sdk target) (api : Api) (types : Types) :
    target.renderProject api none
      = ⟨⟨(target.renderProject api (some types)).project.files.filter
          (·.1 != target.typesPath)⟩, []⟩ := by
  rw [h.renderProject_eq, h.renderProject_eq, h.typesPath,
    Project.filter_insertFiles List.Pairwise.nil, filter_files h.distinct]
  rfl

theorem renderProject_perm (h : form.Describes sdk target) (api : Api) (types : Types) :
    ((target.renderProject api (some types)).project.files.map (·.1)).Perm
      (target.clientPath :: target.typesPath :: target.additional.map (·.path)) := by
  have placed : (Project.insertFiles (form.files sdk api (some types)) []).Perm
      (form.files sdk api (some types) ++ []) := by
    refine Project.insertFiles_perm ?_
    rw [List.append_nil, files_map_fst]
    exact h.distinct
  rw [h.renderProject_eq, h.paths_eq, ← files_map_fst form sdk api types]
  simpa using placed.map (·.1)

end Describes

end PackageForm

end Packages

/-- Generating a package never fails, whatever the model: the client, the types and the
    additional files are all there, each under a path of its own. Without types the types file
    is missing and the others are as they were. -/
theorem renderProject_complete {language : String} (known : language ∈ builtinLanguages)
    {sdk : Sdk} (valid : sdk.check = .ok ()) :
    ∃ target, builtin language sdk = .ok target ∧
      let paths := target.clientPath :: target.typesPath :: target.additional.map (·.path)
      paths.Nodup ∧
      ∀ (api : Api) (types : Types),
        let whole := target.renderProject api (some types)
        whole.errors = [] ∧ (whole.project.files.map (·.1)).Perm paths ∧
        target.renderProject api none
          = ⟨⟨whole.project.files.filter (·.1 != target.typesPath)⟩, []⟩ := by
  obtain ⟨form, listed, rfl⟩ := exists_form known
  obtain ⟨target, built, describes⟩ := builtin_describes listed valid
  refine ⟨target, built, ?_, fun api types => ⟨?_, ?_, ?_⟩⟩
  · rw [describes.paths_eq]
    exact describes.distinct
  · rw [describes.renderProject_eq]
  · exact describes.renderProject_perm api types
  · exact describes.renderProject_none api types

theorem renderProject_complete_go :
    let sdk : Sdk := { name := "Ledger-SDK", version := "2.1.0-rc.1", description := "A ledger." }
    let api : Api := { package := "example.org/ledger/v3", apiPath := "/rpc", methods := [
      { name := "GetBalance", params := [⟨"account", "string"⟩, ⟨"at", "time"⟩],
        returns := some "Balance", description := some "Balance of an account.\nNever negative." },
      { name := "ping" }] }
    let types : Types := {
      package := "ledger",
      types := [{ name := "Balance", fields := [{ name := "amount", typeName := "uint64" },
        { name := "tags", typeName := "string", optional := true, list := true }] }],
      enums := [{ name := "Status", values := [⟨"open", .text "o"⟩, ⟨"closed", .integer 2⟩] }] }
    "go" ∈ builtinLanguages ∧ sdk.check = .ok () ∧
      ∃ target, builtin "go" sdk = .ok target ∧
        let whole := target.renderProject api (some types)
        whole.errors = [] ∧
        (whole.project.files.map (·.1)).Perm ["client.go", "types.go", "go.mod", "jsonrpc.go"] ∧
        (target.renderProject api none).errors = [] := by
  intro sdk api types
  have known : "go" ∈ builtinLanguages := by decide
  have valid : sdk.check = .ok () := by decide +kernel
  obtain ⟨target, built, -, rendered⟩ := renderProject_complete known valid
  obtain ⟨complete, placed, rest⟩ := rendered api types
  have places : target.clientPath :: target.typesPath :: target.additional.map (·.path)
      = ["client.go", "types.go", "go.mod", "jsonrpc.go"] := by
    have listed : Go.packageForm ∈ builtinForms := by simp [builtinForms]
    obtain ⟨other, same, describes⟩ := builtin_describes listed valid
    cases built.symm.trans same
    exact describes.paths_eq
  exact ⟨known, valid, target, built, complete, places ▸ placed, by rw [rest]⟩

theorem ClientForm.block_ne_empty (form : ClientForm) (moduleName : String) (r : Routine) :
    form.block moduleName r ≠ "" := by
  simp [ClientForm.block]

/-- A client is written method by method. What is written for a method depends on its name, its
    parameters, its result and its description, and on the module name; what is written around
    the methods depends on none of them. -/
theorem emitClient_eq_blocks {language : String} (known : language ∈ builtinLanguages) :
    ∃ form ∈ builtinForms, form.client.language = language ∧
      let block (moduleName name : String) (params : List Param)
          (returns description : Option String) : String :=
        form.client.block moduleName (form.client.routine name params returns description)
      (∀ moduleName name params returns description,
        block moduleName name params returns description ≠ "") ∧
      ∀ sdk : Sdk, sdk.check = .ok () →
        ∃ target, builtin language sdk = .ok target ∧
        ∃ pre post : Heading → String, ∀ api : Api,
          target.emitClient api = .ok (pre (heading api)
            ++ String.join (api.methods.map fun m =>
              block api.resolvedModuleName m.name m.params m.returns m.description)
            ++ post (heading api)) := by
  obtain ⟨form, listed, rfl⟩ := exists_form known
  refine ⟨form, listed, rfl, fun moduleName name params returns description => ?_,
    fun sdk valid => ?_⟩
  · exact form.client.block_ne_empty _ _
  · obtain ⟨target, built, describes⟩ := builtin_describes listed valid
    exact ⟨target, built, form.client.head sdk, fun _ => form.client.foot, describes.emitClient⟩

theorem emitClient_eq_blocks_python :
    let sdk : Sdk := { name := "Ledger-SDK", version := "2.1.0" }
    let api : Api := { package := "example.org/ledger", methods := [
      { name := "GetBalance", params := [⟨"account", "string"⟩], returns := some "uint64" },
      { name := "ping", description := some "Whether it is there." }] }
    "python" ∈ builtinLanguages ∧ sdk.check = .ok () ∧
      ∃ target, builtin "python" sdk = .ok target ∧ ∃ pre post : Heading → String,
        target.emitClient api = .ok (pre (heading api)
          ++ ("\n    def get_balance(self, account: str) -> int:\n"
            ++ "        params: Dict[str, Any] = \x7b\n"
            ++ "            \"account\": account,\n"
            ++ "        \x7d\n"
            ++ "        return self._rpc.call(\"GetBalance\", params)\n"
            ++ "\n    def ping(self) -> None:\n"
            ++ "        \"\"\"Whether it is there.\"\"\"\n"
            ++ "        params: Dict[str, Any] = \x7b\n"
            ++ "        \x7d\n"
            ++ "        self._rpc.call(\"ping\", params)\n")
          ++ post (heading api)) := by
  intro sdk api
  have known : "python" ∈ builtinLanguages := by decide
  have valid : sdk.check = .ok () := by decide +kernel
  obtain ⟨form, listed, spoken, -, blocks⟩ := emitClient_eq_blocks known
  obtain rfl : form = Python.packageForm :=
    form_eq_of_language listed (by simp [builtinForms]) spoken
  obtain ⟨target, built, pre, post, emitted⟩ := blocks sdk valid
  refine ⟨known, valid, target, built, pre, post, (emitted api).trans ?_⟩
  refine congrArg (fun t => Except.ok (pre (heading api) ++ t ++ post (heading api))) ?_
  decide +kernel

/-- The text of a client is that of a printer for which signature, parameter map and call of a
    method are made of the same words. -/
theorem emitClient_eq_printed {language : String} (known : language ∈ builtinLanguages) :
    ∃ form ∈ builtinForms, form.client.language = language ∧
      ∀ sdk : Sdk, sdk.check = .ok () →
        ∃ target, builtin language sdk = .ok target ∧ ∀ api : Api,
          target.emitClient api = .ok (form.client.head sdk (heading api)
            ++ String.join (api.methods.map fun m =>
              form.client.block api.resolvedModuleName
                (form.client.routine m.name m.params m.returns m.description))
            ++ form.client.foot) := by
  obtain ⟨form, listed, rfl⟩ := exists_form known
  refine ⟨form, listed, rfl, fun sdk valid => ?_⟩
  obtain ⟨target, built, describes⟩ := builtin_describes listed valid
  exact ⟨target, built, describes.emitClient⟩

theorem emitClient_eq_printed_rust :
    "rust" ∈ builtinLanguages ∧ ({} : Sdk).check = .ok () ∧
      ∃ form ∈ builtinForms, form.client.language = "rust" ∧
        ∃ target, builtin "rust" {} = .ok target ∧ ∀ m : Method,
          let api : Api := { package := "ledger", methods := [m], moduleName := some "Ledger" }
          target.emitClient api = .ok (form.client.head {} (heading api)
            ++ form.client.block "Ledger"
              (form.client.routine m.name m.params m.returns m.description)
            ++ form.client.foot) := by
  have known : "rust" ∈ builtinLanguages := by decide
  obtain ⟨form, listed, spoken, printed⟩ := emitClient_eq_printed known
  obtain ⟨target, built, emitted⟩ := printed {} Sdk.default_check
  refine ⟨known, Sdk.default_check, form, listed, spoken, target, built, fun m => ?_⟩
  simp [emitted, Api.resolvedModuleName]

/-- A types file is a preamble, then each record type, then each enumeration. Every type is
    written on its own, in passes each of which shows its fields or members once and in order,
    and without types nothing but the preamble is left. -/
theorem emitTypes_eq_blocks {language : String} (known : language ∈ builtinLanguages) :
    ∃ form ∈ builtinForms, form.client.language = language ∧
      form.types.record.ShowsParts ∧ form.types.enum.ShowsParts ∧
      ∀ sdk : Sdk, sdk.check = .ok () →
        ∃ target, builtin language sdk = .ok target ∧
          (∀ types : Types, target.emitTypes types = .ok (form.types.head sdk types.package
            ++ String.join (types.types.map fun type =>
              form.types.record.block type.name type.fields)
            ++ String.join (types.enums.map fun enum =>
              form.types.enum.block enum.name enum.values))) ∧
          ∀ package : String, target.emitTypes { package } = .ok (form.types.head sdk package) := by
  obtain ⟨form, listed, rfl⟩ := exists_form known
  obtain ⟨fields, members⟩ := builtinForms_showsParts listed
  refine ⟨form, listed, rfl, fields, members, fun sdk valid => ?_⟩
  obtain ⟨target, built, describes⟩ := builtin_describes listed valid
  refine ⟨target, built, describes.emitTypes, fun package => ?_⟩
  rw [describes.emitTypes]
  simp [TypesForm.source]

theorem emitTypes_eq_blocks_dart :
    let sdk : Sdk := { name := "Ledger-SDK", version := "2.1.0" }
    let types : Types := {
      package := "ledger",
      types := [{ name := "Balance", fields := [{ name := "amount", typeName := "uint64" },
        { name := "tags", typeName := "string", optional := true, list := true }] }],
      enums := [{ name := "Status", values := [⟨"open", .text "o"⟩, ⟨"closed", .integer 2⟩] }] }
    "dart" ∈ builtinLanguages ∧ sdk.check = .ok () ∧
      ∃ form ∈ builtinForms, form.client.language = "dart" ∧
        ∃ target, builtin "dart" sdk = .ok target ∧
          target.emitTypes types = .ok (form.types.head sdk "ledger"
            ++ ("\nclass Balance \x7b\n  final int amount;\n  final List<String>? tags;\n"
              ++ "\n  const Balance(\x7b\n    required this.amount,\n    this.tags,\n  \x7d);\n"
              ++ "\n  Map<String, dynamic> toJson() => <String, dynamic>\x7b\n"
              ++ "        'amount': amount,\n        'tags': tags,\n      \x7d;\n\x7d\n")
            ++ ("\nenum Status \x7b\n  open(\"o\"),\n  closed(2);\n"
              ++ "\n  final Object value;\n\n  const Status(this.value);\n\x7d\n")) := by
  intro sdk types
  have known : "dart" ∈ builtinLanguages := by decide
  have valid : sdk.check = .ok () := by decide +kernel
  obtain ⟨form, listed, spoken, -, -, written⟩ := emitTypes_eq_blocks known
  obtain rfl : form = Dart.packageForm := form_eq_of_language listed (by simp [builtinForms]) spoken
  obtain ⟨target, built, emitted, -⟩ := written sdk valid
  refine ⟨known, valid, Dart.packageForm, listed, spoken, target, built, (emitted types).trans ?_⟩
  refine congrArg₂ (fun records enums =>
    Except.ok (Dart.packageForm.types.head sdk "ledger" ++ records ++ enums)) ?_ ?_
  all_goals decide +kernel

end ClientGen.Target
