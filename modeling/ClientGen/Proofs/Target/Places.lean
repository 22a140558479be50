import ClientGen.Proofs.Command.Writing
import ClientGen.Proofs.Json.Fields
import ClientGen.Proofs.Target.Emission

/-! # Places of generated files

Where the built-in targets put the files of a package, whatever the package is called. A name that
passes the check is a single name of lower-case letters, digits and underscores, so every path that
is made of it leads inside of the output directory, and every file stands in a directory that the
layout of its target names, or at the root.
-/

namespace ClientGen

open ClientGen.Path

section Names

variable {sdk : Sdk} {ending : String}

theorem Sdk.isName_append (valid : sdk.check = .ok ()) (slash : '/' ∉ ending.toList)
    (backslash : '\\' ∉ ending.toList) : IsName (sdk.packageName ++ ending) := by
  have usable := Sdk.isPackageName_of_check valid
  simp only [Sdk.isPackageName, Bool.and_eq_true, List.any_eq_true, List.all_eq_true] at usable
  obtain ⟨⟨c, mem, alphanum⟩, plain⟩ := usable
  have noBackslash : '\\' ∉ sdk.packageName.toList := by
    intro mem
    exact absurd (plain '\\' mem) (by decide)
  refine .of_alphanum (c := c) ?_ alphanum ?_ ?_
  · simp [mem]
  · simp [Sdk.slash_not_mem valid, slash]
  · simp [noBackslash, backslash]

theorem Sdk.isName_packageName (valid : sdk.check = .ok ()) : IsName sdk.packageName := by
  have named : IsName (sdk.packageName ++ "") := Sdk.isName_append valid (by simp) (by simp)
  rwa [String.append_empty] at named

end Names

namespace Target

/-- The paths of all files of a target. -/
def paths (target : Target) : List String :=
  target.clientPath :: target.typesPath :: target.additional.map (·.path)

/-- A path that is one name at the root, or one name in one of the directories. -/
inductive StandsIn (dirs : List String) (path : String) : Prop
  | root (h : IsName path)
  | inside (dir name : String) (mem : dir ∈ dirs) (h : IsName name)
      (place : path = dir ++ "/" ++ name)

/-- The directories of the layout lead down from the root, and every file stands in one of them or
    at the root. -/
structure Placed (target : Target) : Prop where
  directories : ∀ dir ∈ target.layout.directories, Descends dir
  files : ∀ path ∈ target.paths, StandsIn target.layout.directories path

namespace Placed

variable {target : Target} {path : String} {dirs files : List String}

theorem of_lists (layout : target.layout.directories = dirs) (named : target.paths = files)
    (directories : ∀ dir ∈ dirs, Descends dir) (stand : ∀ path ∈ files, StandsIn dirs path) :
    target.Placed := by
  subst layout named
  exact ⟨directories, stand⟩

theorem descends (h : target.Placed) (mem : path ∈ target.paths) : Descends path := by
  cases h.files path mem with
  | root name => exact .single name
  | inside dir name listed inner place =>
      rw [place]
      exact .inner (h.directories dir listed) inner

theorem exists_parent (h : target.Placed) (mem : path ∈ target.paths) :
    ∃ dir, parent? path = some dir ∧ (dir = "" ∨ dir ∈ target.layout.directories) := by
  cases h.files path mem with
  | root name => exact ⟨"", name.parent?_eq, .inl rfl⟩
  | inside dir name listed inner place =>
      rw [place]
      exact ⟨dir, (h.directories dir listed).parent?_below inner, .inr listed⟩

end Placed

section Languages

variable {sdk : Sdk} {target : Target}

theorem Dart.places_eq (built : Dart.target sdk = .ok target) :
    target.layout.directories = ["lib", "lib/src"] ∧
      target.paths = ["lib/" ++ sdk.packageName ++ "_client.dart", "lib/types.dart",
        "pubspec.yaml", "lib/src/json_rpc_client.dart"] := by
  obtain ⟨_, -, built⟩ := Json.bind_eq_ok.mp built
  obtain ⟨_, -, built⟩ := Json.bind_eq_ok.mp built
  cases built
  exact ⟨rfl, rfl⟩

theorem Dart.placed (valid : sdk.check = .ok ()) (built : Dart.target sdk = .ok target) :
    target.Placed := by
  obtain ⟨layout, named⟩ := Dart.places_eq built
  have library : Descends "lib" := .single (by decide)
  have source : Descends "lib/src" := library.inner (show IsName "src" by decide)
  have client : IsName (sdk.packageName ++ "_client.dart") :=
    Sdk.isName_append valid (by decide) (by decide)
  refine .of_lists layout named ?_ ?_
  · simp only [List.forall_mem_cons]
    exact ⟨library, source, List.forall_mem_nil _⟩
  · simp only [List.forall_mem_cons]
    refine ⟨?_, ?_, ?_, ?_, List.forall_mem_nil _⟩
    · exact .inside "lib" _ (.head _) client (by simp [← String.append_assoc])
    · exact .inside "lib" "types.dart" (.head _) (by decide) (by decide)
    · exact .root (by decide)
    · exact .inside "lib/src" "json_rpc_client.dart" (.tail _ (.head _)) (by decide) (by decide)

theorem Python.places_eq (valid : sdk.check = .ok ()) (built : Python.target sdk = .ok target) :
    target.layout.directories = [sdk.packageName] ∧
      target.paths = [sdk.packageName ++ "/client.py", sdk.packageName ++ "/types.py",
        "pyproject.toml", sdk.packageName ++ "/__init__.py",
        sdk.packageName ++ "/_jsonrpc.py"] := by
  obtain ⟨_, -, built⟩ := Json.bind_eq_ok.mp built
  obtain ⟨_, -, built⟩ := Json.bind_eq_ok.mp built
  cases built
  have package := Sdk.isName_packageName valid
  refine ⟨?_, rfl⟩
  simp [Layout.directories, Layout.isRoot, Layout.insertLast, package.ne_empty, package.ne_dot]

theorem Python.placed (valid : sdk.check = .ok ()) (built : Python.target sdk = .ok target) :
    target.Placed := by
  obtain ⟨layout, named⟩ := Python.places_eq valid built
  have package := Sdk.isName_packageName valid
  have inside (name : String) {ending : String} (h : IsName name) (same : ending = "/" ++ name) :
      StandsIn [sdk.packageName] (sdk.packageName ++ ending) := by
    refine .inside sdk.packageName name (.head _) h ?_
    rw [same, String.append_assoc]
  refine .of_lists layout named ?_ ?_
  · exact List.forall_mem_singleton.mpr (.single package)
  · simp only [List.forall_mem_cons]
    refine ⟨?_, ?_, ?_, ?_, ?_, List.forall_mem_nil _⟩
    · exact inside "client.py" (by decide) (by decide)
    · exact inside "types.py" (by decide) (by decide)
    · exact .root (by decide)
    · exact inside "__init__.py" (by decide) (by decide)
    · exact inside "_jsonrpc.py" (by decide) (by decide)

theorem Rust.places_eq (built : Rust.target sdk = .ok target) :
    target.layout.directories = ["src"] ∧
      target.paths
        = ["src/client.rs", "src/types.rs", "Cargo.toml", "src/lib.rs", "src/jsonrpc.rs"] := by
  obtain ⟨_, -, built⟩ := Json.bind_eq_ok.mp built
  obtain ⟨_, -, built⟩ := Json.bind_eq_ok.mp built
  cases built
  exact ⟨rfl, rfl⟩

theorem Rust.placed (built : Rust.target sdk = .ok target) : target.Placed := by
  obtain ⟨layout, named⟩ := Rust.places_eq built
  refine .of_lists layout named ?_ ?_
  · exact List.forall_mem_singleton.mpr (.single (by decide))
  · simp only [List.forall_mem_cons]
    refine ⟨?_, ?_, ?_, ?_, ?_, List.forall_mem_nil _⟩
    · exact .inside "src" "client.rs" (.head _) (by decide) (by decide)
    · exact .inside "src" "types.rs" (.head _) (by decide) (by decide)
    · exact .root (by decide)
    · exact .inside "src" "lib.rs" (.head _) (by decide) (by decide)
    · exact .inside "src" "jsonrpc.rs" (.head _) (by decide) (by decide)

theorem Go.places_eq (built : Go.target sdk = .ok target) :
    target.layout.directories = [] ∧
      target.paths = ["client.go", "types.go", "go.mod", "jsonrpc.go"] := by
  obtain ⟨_, -, built⟩ := Json.bind_eq_ok.mp built
  obtain ⟨_, -, built⟩ := Json.bind_eq_ok.mp built
  cases built
  exact ⟨rfl, rfl⟩

theorem Go.placed (built : Go.target sdk = .ok target) : target.Placed := by
  obtain ⟨layout, named⟩ := Go.places_eq built
  refine .of_lists layout named (List.forall_mem_nil _) ?_
  simp only [List.forall_mem_cons]
  exact ⟨.root (by decide), .root (by decide), .root (by decide), .root (by decide),
    List.forall_mem_nil _⟩

theorem builtin_placed {language : String} (known : language ∈ builtinLanguages)
    (valid : sdk.check = .ok ()) (built : builtin language sdk = .ok target) : target.Placed := by
  simp only [builtinLanguages, List.mem_cons, List.not_mem_nil, or_false] at known
  obtain rfl | rfl | rfl | rfl := known
  · exact Dart.placed valid built
  · exact Python.placed valid built
  · exact Rust.placed built
  · exact Go.placed built

end Languages

/-- Every path of a built-in target leads inside of the output directory and stands in a directory
    of its layout or at the root. No file of a package is refused when the package is written. -/
theorem builtin_paths_leadInside {language : String} (known : language ∈ builtinLanguages)
    {sdk : Sdk} (valid : sdk.check = .ok ()) :
    ∃ target, builtin language sdk = .ok target ∧
      (∀ dir ∈ target.layout.directories, LeadsInside dir) ∧
      (∀ path ∈ target.clientPath :: target.typesPath :: target.additional.map (·.path),
        LeadsInside path ∧ Files.isContained path = true ∧
          ∃ dir, parent? path = some dir ∧ (dir = "" ∨ dir ∈ target.layout.directories)) ∧
      ∀ (api : Api) (types : Types) (directory : String) (files : Files) (path outer : String),
        let project := (target.renderProject api (some types)).project
        (files.writeProject directory target.layout project).1 ≠ some (.outside path outer) := by
  obtain ⟨form, listed, rfl⟩ := exists_form known
  obtain ⟨target, built, describes⟩ := builtin_describes listed valid
  have placed := builtin_placed known valid built
  have contained : ∀ path ∈ target.paths, Files.isContained path = true :=
    fun path mem => (placed.descends mem).leadsInside.isContained
  refine ⟨target, built, ?_, ?_, ?_⟩
  · exact fun dir mem => (placed.directories dir mem).leadsInside
  · exact fun path mem =>
      ⟨(placed.descends mem).leadsInside, contained path mem, placed.exists_parent mem⟩
  · intro api types directory files
    refine Files.Written.writeProject_inside directory target.layout ?_ files
    intro file mem
    have place : file.1 ∈ target.paths :=
      (describes.renderProject_perm api types).mem_iff.mp (List.mem_map_of_mem mem)
    exact contained file.1 place

/-- Whatever comes before the last element of a name is dropped. -/
theorem builtin_paths_leadInside_python :
    let sdk : Sdk := { name := "../../Évil.d/Ledger-SDK//" }
    "python" ∈ builtinLanguages ∧ sdk.check = .ok () ∧ sdk.packageName = "_ledger__s_d_k" ∧
      ∃ target, builtin "python" sdk = .ok target ∧
        target.clientPath = "_ledger__s_d_k/client.py" ∧ LeadsInside target.clientPath ∧
        ∃ dir, parent? target.clientPath = some dir ∧
          (dir = "" ∨ dir ∈ target.layout.directories) := by
  intro sdk
  have known : "python" ∈ builtinLanguages := by decide
  have valid : sdk.check = .ok () := by decide +kernel
  have package : sdk.packageName = "_ledger__s_d_k" := by decide +kernel
  obtain ⟨target, built, -, files, -⟩ := builtin_paths_leadInside known valid
  obtain ⟨inside, -, held⟩ := files target.clientPath (.head _)
  have place : target.clientPath = "_ledger__s_d_k/client.py" := by
    rw [(List.cons.inj (Python.places_eq valid built).2).1, package]
    rfl
  exact ⟨known, valid, package, target, built, place, inside, held⟩

end Target

end ClientGen
