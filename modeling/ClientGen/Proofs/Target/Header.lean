import ClientGen.Model.Check
import ClientGen.Proofs.Target.Emission
import ClientGen.Proofs.Text.SourceLines

/-! # Package identifiers in comments

The package identifier of an API is named in comments of a client, as it is. In the languages
whose comments start with two slashes it is named nowhere else, so it has no say in the code of
the client as long as each of its lines is a comment. A line of the identifier that is none
becomes a line of the code.
-/

namespace ClientGen.Target

open Text

/-- A comment that names a package, and the source above it. -/
structure Remark where
  above : String
  opening : String
  closing : String
  above_ended : above.toList.getLast? ≠ some '\r' := by decide
  slashes : ['/', '/'] <+: opening.toList := by decide
  unbroken : Unbroken opening.toList := by decide
  trailing : isTrailing closing.toList = true := by decide

namespace Remark

variable {returns : Bool} {package other : String} {remarks : List Remark}

/-- The comment for a package. -/
def comment (r : Remark) (package : String) : String :=
  r.opening ++ package ++ r.closing

/-- Comments for a package with the source around them. -/
def source (remarks : List Remark) (below package : String) : String :=
  String.join (remarks.map fun r => r.above ++ "\n" ++ r.comment package ++ "\n") ++ below

/-- The lines of a package identifier that are no comments. The first line is one, as it stands
    behind the opening of a comment. -/
def strayLines (returns : Bool) (package : String) : List (List Char) :=
  (sourceLines returns package.toList).tail.filter (!isRemark ·)

theorem isRemark_of_slashes {cs : List Char} (h : ['/', '/'] <+: cs) : isRemark cs = true := by
  obtain ⟨rest, rfl⟩ := h
  rfl

/-- What stands behind the identifier does not make a comment of a line, nor code. -/
theorem countP_trailing {lines wholes : List (List Char)} {closing : List Char}
    (h : isTrailing closing = true)
    (joined : List.Forall₂ (fun line whole => whole = line ∨ whole = line ++ closing)
      lines wholes) :
    wholes.countP (!isRemark ·) = lines.countP (!isRemark ·) := by
  induction joined with
  | nil => rfl
  | cons first _ ih =>
      rw [List.countP_cons, List.countP_cons, ih]
      rcases first with rfl | rfl
      · rfl
      · rw [isRemark_append_trailing h]

/-- A comment has as many lines of code as the identifier in it has stray lines. -/
theorem length_codeLines_comment (r : Remark) (package : String) :
    (codeLines returns (r.comment package).toList).length
      = (strayLines returns package).length := by
  have joined := sourceLines_append_unbroken returns package.toList
    (unbroken_of_isTrailing r.trailing)
  have parts : (r.comment package).toList
      = r.opening.toList ++ (package.toList ++ r.closing.toList) := by
    rw [comment, String.toList_append, String.toList_append, List.append_assoc]
  rw [codeLines, strayLines, parts, sourceLines_unbroken_append r.unbroken,
    ← List.countP_eq_length_filter, ← List.countP_eq_length_filter]
  generalize sourceLines returns package.toList = lines at joined ⊢
  generalize sourceLines returns (package.toList ++ r.closing.toList) = wholes at joined ⊢
  cases joined with
  | nil => rfl
  | @cons _ whole _ _ _ others =>
      have slashes : ['/', '/'] <+: r.opening.toList ++ whole :=
        r.slashes.trans (List.prefix_append _ _)
      rw [List.modifyHead_cons, List.countP_cons_of_neg (by simp [isRemark_of_slashes slashes])]
      exact countP_trailing r.trailing others

/-- The code of a source is that above the comments, that in them, and that below. -/
theorem codeLines_source (below : String) :
    codeLines returns (source remarks below package).toList
      = (remarks.flatMap fun r => codeLines returns r.above.toList
          ++ codeLines returns (r.comment package).toList)
        ++ codeLines returns below.toList := by
  induction remarks with
  | nil => simp [source]
  | cons r rest ih =>
      have ended : (r.comment package).toList.getLast? ≠ some '\r' := by
        rw [comment, String.toList_append]
        exact getLast?_append_trailing r.trailing
      have text : (source (r :: rest) below package).toList
          = r.above.toList ++ '\n' :: ((r.comment package).toList
            ++ '\n' :: (source rest below package).toList) := by
        simp [source]
      rw [text, codeLines_append_feed r.above_ended, codeLines_append_feed ended, ih,
        List.flatMap_cons, List.append_assoc, List.append_assoc]

theorem length_codeLines_source (remarks : List Remark) (below package : String)
    (tidy : strayLines returns other = []) :
    (codeLines returns (source remarks below package).toList).length
      = (codeLines returns (source remarks below other).toList).length
        + remarks.length * (strayLines returns package).length := by
  rw [codeLines_source, codeLines_source]
  induction remarks with
  | nil => simp
  | cons r rest ih =>
      simp only [List.flatMap_cons, List.length_append, length_codeLines_comment, tidy,
        List.length_nil, List.length_cons, Nat.succ_mul] at ih ⊢
      omega

/-- The code does not depend on the identifier if and only if it has no stray lines. -/
theorem codeLines_source_eq_iff (named : remarks ≠ []) (below : String)
    (tidy : strayLines returns other = []) :
    codeLines returns (source remarks below package).toList
        = codeLines returns (source remarks below other).toList
      ↔ strayLines returns package = [] := by
  constructor
  · intro same
    have total := length_codeLines_source remarks below package tidy
    rw [same, Nat.left_eq_add, Nat.mul_eq_zero] at total
    cases total with
    | inl none => exact absurd (List.eq_nil_of_length_eq_zero none) named
    | inr none => exact List.eq_nil_of_length_eq_zero none
  · intro tidy'
    have noCode (r : Remark) {package : String} (tidy : strayLines returns package = []) :
        codeLines returns (r.comment package).toList = [] := by
      rw [← List.length_eq_zero_iff, length_codeLines_comment, tidy, List.length_nil]
    rw [codeLines_source, codeLines_source]
    simp only [noCode _ tidy, noCode _ tidy']

end Remark

/-- Above its methods, a client shows the package identifier in comments and nowhere else. -/
def ClientForm.ShowsPackageInRemarks (form : ClientForm) : Prop :=
  ∀ (sdk : Sdk) (h : Heading), ∃ remarks ≠ [], ∃ below, ∀ package,
    form.head sdk { h with package } = Remark.source remarks below package

theorem isTrailing_version (version : ApiVersion) :
    isTrailing (" (" ++ version.name ++ ")").toList = true := by
  cases version <;> decide

/-- The comment with the source of a client, below the one that every client starts with. -/
def sourceRemark (version : ApiVersion) : Remark where
  above := "// Code generated by sdkgen. DO NOT EDIT."
  opening := "// Source: "
  closing := " (" ++ version.name ++ ")"
  trailing := isTrailing_version version

theorem source_opening (version : ApiVersion) :
    "// Code generated by sdkgen. DO NOT EDIT.\n// Source: "
      = (sourceRemark version).above ++ "\n" ++ (sourceRemark version).opening := rfl

namespace Dart

/-- The documentation of the class of a client. -/
def classRemark : Remark where
  above := "\nimport 'dart:typed_data';\n\nimport 'src/json_rpc_client.dart';\n"
    ++ "import 'types.dart';\n"
  opening := "/// Client for the "
  closing := " API."

theorem showsPackageInRemarks : clientForm.ShowsPackageInRemarks := by
  intro sdk h
  refine ⟨[sourceRemark h.apiVersion, classRemark], List.cons_ne_nil _ _, ?_⟩
  have second : clientImports
      = ")" ++ "\n" ++ classRemark.above ++ "\n" ++ classRemark.opening := rfl
  have last : " API.\nclass " = classRemark.closing ++ "\n" ++ "class " := rfl
  constructor
  intro package
  simp only [clientForm, source_opening h.apiVersion, second, last, Remark.source,
    Remark.comment, List.map_cons, List.map_nil, String.join_cons, String.join_nil,
    String.append_assoc, String.empty_append]
  simp only [sourceRemark, String.append_assoc]
  rfl

end Dart

namespace Go

theorem showsPackageInRemarks : clientForm.ShowsPackageInRemarks := by
  intro sdk h
  refine ⟨[sourceRemark h.apiVersion], List.cons_ne_nil _ _, ?_⟩
  have last : ")\n\npackage " = ")" ++ "\n" ++ "\npackage " := rfl
  constructor
  intro package
  simp only [clientForm, source_opening h.apiVersion, last, Remark.source,
    Remark.comment, List.map_cons, List.map_nil, String.join_cons, String.join_nil,
    String.append_assoc, String.empty_append]
  simp only [sourceRemark, String.append_assoc]
  rfl

end Go

namespace Rust

/-- The attributes and imports of a client, up to the path of the API. -/
def attributes : String :=
  "#![allow(unused_imports)]\n\nuse serde_json::json;\n\n"
    ++ "use crate::jsonrpc::\x7bJsonRpcClient, JsonRpcError\x7d;\nuse crate::types::*;\n\n"
    ++ "const API_PATH: &str = \""

/-- The documentation of the struct of a client. -/
def structRemark (apiPath : String) : Remark where
  above := attributes ++ apiPath ++ "\";\n"
  opening := "/// Client for the "
  closing := " API."
  above_ended := by
    rw [String.toList_append, List.getLast?_append]
    exact show some '\n' ≠ some '\r' by decide

theorem showsPackageInRemarks : clientForm.ShowsPackageInRemarks := by
  intro sdk h
  refine ⟨[sourceRemark h.apiVersion, structRemark h.apiPath], List.cons_ne_nil _ _, ?_⟩
  have second : clientImports = ")" ++ "\n" ++ attributes := rfl
  have third : "\";\n\n/// Client for the " = "\";\n" ++ "\n" ++ "/// Client for the " := rfl
  have last : " API.\n#[derive(Debug, Clone)]\npub struct "
      = " API." ++ "\n" ++ "#[derive(Debug, Clone)]\npub struct " := rfl
  constructor
  intro package
  simp only [clientForm, source_opening h.apiVersion, second, third, last, Remark.source,
    Remark.comment, List.map_cons, List.map_nil, String.join_cons, String.join_nil,
    String.append_assoc, String.empty_append]
  simp only [sourceRemark, structRemark, String.append_assoc]
  rfl

end Rust

section Emission

variable {form : ClientForm} {api : Api} {package : String}

theorem heading_package (package : String) (packageName : api.packageName.isSome)
    (moduleName : api.moduleName.isSome) :
    heading { api with package } = { heading api with package } := by
  obtain ⟨_, packageName⟩ := Option.isSome_iff_exists.mp packageName
  obtain ⟨_, moduleName⟩ := Option.isSome_iff_exists.mp moduleName
  simp only [heading, Api.resolvedPackageName, Api.resolvedModuleName, packageName, moduleName,
    Option.getD_some]

theorem ClientForm.ShowsPackageInRemarks.client_eq_source (h : form.ShowsPackageInRemarks)
    (sdk : Sdk) (packageName : api.packageName.isSome) (moduleName : api.moduleName.isSome) :
    ∃ remarks ≠ [], ∃ below, ∀ package,
      form.client sdk { api with package } = Remark.source remarks below package := by
  obtain ⟨remarks, named, below, shown⟩ := h sdk (heading api)
  refine ⟨remarks, named,
    below ++ (String.join (api.methods.map (form.method api.resolvedModuleName)) ++ form.foot),
    fun package => ?_⟩
  have headings := heading_package package packageName moduleName
  have module : Api.resolvedModuleName { api with package } = api.resolvedModuleName :=
    congrArg Heading.moduleName headings
  rw [ClientForm.client, headings, shown, module, Remark.source, Remark.source]
  simp only [String.append_assoc]

/-- The languages whose comments start with two slashes. -/
def slashLanguages : List String := ["dart", "go", "rust"]

theorem exists_slashForm {language : String} (slashes : language ∈ slashLanguages) :
    ∃ form ∈ builtinForms, form.client.language = language ∧
      form.client.ShowsPackageInRemarks := by
  simp only [slashLanguages, List.mem_cons, List.not_mem_nil, or_false] at slashes
  obtain rfl | rfl | rfl := slashes
  · exact ⟨Dart.packageForm, by simp [builtinForms], rfl, Dart.showsPackageInRemarks⟩
  · exact ⟨Go.packageForm, by simp [builtinForms], rfl, Go.showsPackageInRemarks⟩
  · exact ⟨Rust.packageForm, by simp [builtinForms], rfl, Rust.showsPackageInRemarks⟩

/-- Two clients whose package identifiers differ have the same code, as long as the identifiers
    have no stray lines; and an identifier that has some changes the code. -/
theorem emitClient_codeLines_eq_iff {language : String} (slashes : language ∈ slashLanguages)
    {sdk : Sdk} (valid : sdk.check = .ok ()) (packageName : api.packageName.isSome)
    (moduleName : api.moduleName.isSome) :
    ∃ target, builtin language sdk = .ok target ∧ ∃ source : String → String,
      (∀ package, target.emitClient { api with package } = .ok (source package)) ∧
      ∀ (returns : Bool) (package other : String), Remark.strayLines returns other = [] →
        (codeLines returns (source package).toList = codeLines returns (source other).toList
          ↔ Remark.strayLines returns package = []) := by
  obtain ⟨form, listed, rfl, shows⟩ := exists_slashForm slashes
  obtain ⟨target, built, describes⟩ := builtin_describes listed valid
  obtain ⟨remarks, named, below, shown⟩ := shows.client_eq_source sdk packageName moduleName
  refine ⟨target, built, Remark.source remarks below, fun package => ?_, ?_⟩
  · rw [describes.emitClient, shown]
  · exact fun _ _ _ tidy => Remark.codeLines_source_eq_iff named below tidy

theorem emitClient_codeLines_eq_iff_rust :
    let api : Api :=
      { package := "", packageName := some "ledger", moduleName := some "Ledger" }
    "rust" ∈ slashLanguages ∧ ({} : Sdk).check = .ok () ∧ api.packageName.isSome ∧
      api.moduleName.isSome ∧ ∃ target, builtin "rust" {} = .ok target ∧
      ∃ source : String → String,
        (∀ package, target.emitClient { api with package } = .ok (source package)) ∧
        codeLines true (source "gitlab.com/acme/ledger").toList
          = codeLines true (source "ledger").toList := by
  intro api
  obtain ⟨target, built, source, emitted, same⟩ := emitClient_codeLines_eq_iff
    (show "rust" ∈ slashLanguages by decide) Sdk.default_check
    (show api.packageName.isSome from rfl) (show api.moduleName.isSome from rfl)
  exact ⟨by decide, Sdk.default_check, rfl, rfl, target, built, source, emitted,
    (same true "gitlab.com/acme/ledger" "ledger" (by decide)).mpr (by decide)⟩

/-- A package identifier of two lines, the second of which imports a library. -/
theorem emitClient_codeLines_strayImport :
    let api : Api :=
      { package := "ledger", packageName := some "ledger", moduleName := some "Ledger" }
    let other : Api := { api with package := "ledger\nimport 'dart:io'; //" }
    (Check.api api "api.json").ok = true ∧ (Check.api other "api.json").ok = true ∧
      ∃ target source source', builtin "dart" {} = .ok target ∧
        target.emitClient api = .ok source ∧ target.emitClient other = .ok source' ∧
        codeLines false source.toList ≠ codeLines false source'.toList := by
  intro api other
  obtain ⟨target, built, describes⟩ := Dart.target_describes Sdk.default_check
  obtain ⟨remarks, named, below, shown⟩ :=
    Dart.showsPackageInRemarks.client_eq_source {} (show api.packageName.isSome from rfl)
      (show api.moduleName.isSome from rfl)
  refine ⟨by decide, by decide, target, _, _, built, describes.emitClient api,
    describes.emitClient other, ?_⟩
  have stray : Remark.strayLines false other.package ≠ [] := by decide
  have first : Dart.clientForm.client {} api = _ := shown "ledger"
  have second : Dart.clientForm.client {} other = _ := shown "ledger\nimport 'dart:io'; //"
  show codeLines false (Dart.clientForm.client {} api).toList
    ≠ codeLines false (Dart.clientForm.client {} other).toList
  rw [first, second]
  exact fun same => stray
    ((Remark.codeLines_source_eq_iff named below (by decide)).mp same.symm)

end Emission

end ClientGen.Target
