import ClientGen.Proofs.Command.Writing
import ClientGen.Proofs.Files.Directories
import ClientGen.Proofs.Files.Territory
import Mathlib.Data.List.Nodup

/-! # Plans of packages

Writing a package carries out a plan: for each of its directories and files, first what holds it.
All steps of the plan are on the way to the output directory or in the directory of the package.
-/

namespace ClientGen

open Files Place

namespace Plan

/-- A file of this text, behind the directories that hold it. -/
def textFile (here : Place) (path text : String) : Step :=
  if Path.isUsable path && (Path.names path).all fits then
    .file (walk (start here path) (Path.names path)) text.toUTF8
  else .refused

def written (here : Place) (path text : String) : List Step :=
  directories here ((Path.parent? path).getD "") ++ [textFile here path text]

/-- All directories and files of a package. -/
def package (here : Place) (directory : String) (layout : Layout) (project : Project) : List Step :=
  layout.directories.flatMap (fun name => directories here (Path.join directory name)) ++
    project.files.flatMap fun file => written here (Path.join directory file.1) file.2

end Plan

/-- Directories and files that lead down from the directory of a package, each file once. -/
structure WellPlaced (layout : Layout) (project : Project) : Prop where
  directories : ∀ name ∈ layout.directories, Path.Descends name
  files : ∀ file ∈ project.files, Path.Descends file.1
  distinct : (project.files.map (·.1)).Nodup
  nonempty : project.files ≠ []

namespace Files.Written

variable {files : Files} {written : Written} {plan : List Step} {directory path text : String}

/-- What has been written carries out a plan. -/
def Follows (written : Written) (plan : List Step) (files : Files) : Prop :=
  Performs plan files written.1.isNone written.2

theorem Follows.andThen {next : Files → Written} {plan' : List Step}
    (h : written.Follows plan files) (grounded : files.Grounded)
    (step : ∀ after : Files, after.here = files.here → after.Grounded →
      (next after).Follows plan' after) :
    (written.andThen next).Follows (plan ++ plan') files := by
  obtain ⟨error, after⟩ := written
  cases error with
  | none => exact Performs.append h (step after h.here_eq (h.grounded grounded))
  | some error => exact Performs.append_of_stopped _ h

theorem Follows.foldl {α : Type} (h : written.Follows plan files) (grounded : files.Grounded)
    (xs : List α) (step : α → Files → Written) (plans : α → List Step)
    (each : ∀ x ∈ xs, ∀ after : Files, after.here = files.here → after.Grounded →
      (step x after).Follows (plans x) after) :
    (xs.foldl (fun written x => written.andThen (step x)) written).Follows
      (plan ++ xs.flatMap plans) files := by
  induction xs generalizing written plan with
  | nil => simpa using h
  | cons x rest ih =>
      obtain ⟨first, others⟩ := List.forall_mem_cons.mp each
      rw [List.flatMap_cons, ← List.append_assoc]
      exact ih (h.andThen grounded first) others

theorem createDirectory_follows (named : Path.names path ≠ []) (grounded : files.Grounded) :
    (files.createDirectory path).Follows (Plan.directories files.here path) files := by
  have performs := makeDirectories_performs named grounded
  rw [← Option.isNone_map (f := WriteError.noDirectory path)] at performs
  exact performs

/-- Write a file whose directories are there. -/
def writeHeld (path text : String) (files : Files) : Written :=
  match files.write path text with
  | .ok files => (none, files)
  | .error error => (some (.noFile path error), files)

theorem writeHeld_of_error {error : FileError} (failed : files.locate path = .error error) :
    writeHeld path text files = (some (WriteError.noFile path error), files) := by
  rw [writeHeld, write, failed]
  rfl

theorem writeHeld_of_ok {place : Place} (found : files.locate path = .ok place) :
    writeHeld path text files =
      match files.get? place with
      | some .directory => (some (.noFile path .isDirectory), files)
      | _ => (none, files.put place (.file text.toUTF8)) := by
  rw [writeHeld, write, found]
  show (match match files.get? place with
    | some .directory => Except.error FileError.isDirectory
    | _ => .ok (files.put place (.file text.toUTF8)) with
    | .ok files => (none, files)
    | .error error => (some (WriteError.noFile path error), files)) = _
  cases files.get? place with
  | none => rfl
  | some entry => cases entry <;> rfl

theorem follows_refused {error : WriteError} : Follows (some error, files) [.refused] files :=
  ⟨rfl, rfl⟩

theorem put_follows {place : Place} (content : ByteArray)
    (free : files.get? place ≠ some .directory) :
    Follows (none, files.put place (.file content)) [.file place content] files := by
  refine ⟨rfl, ?_⟩
  rw [get?_put free]
  exact Plan.run_cons_some (Step.apply_eq_some.mpr
    ⟨place, .file content, rfl, Step.stored?_file.mpr ⟨rfl, free⟩, rfl⟩)

theorem writeHeld_follows_of_ok {place : Place} (found : files.locate path = .ok place)
    (text : String) :
    (writeHeld path text files).Follows [.file place text.toUTF8] files := by
  rw [writeHeld_of_ok found]
  cases there : files.get? place with
  | none => exact put_follows _ (by simp [there])
  | some entry =>
      cases entry with
      | file content => exact put_follows _ (by simp [there])
      | directory =>
          refine ⟨rfl, Plan.run_cons_none ?_⟩
          simp [Step.apply, Step.place?, there, Step.stored?]

theorem writeHeld_follows {names : List String} {last : String}
    (named : Path.names path = names ++ [last]) (noDirectory : Path.namesDirectory path = false)
    (grounded : files.Grounded)
    (stands : Path.isUsable path = true →
      Plan.Stands files.get? (start files.here path) names) (text : String) :
    (writeHeld path text files).Follows [Plan.textFile files.here path text] files := by
  cases usable : Path.isUsable path with
  | false =>
      obtain ⟨error, -, -, located⟩ := locate_of_not_usable files usable
      have skipped : Plan.textFile files.here path text = .refused := by
        simp [Plan.textFile, usable]
      rw [writeHeld_of_error located, skipped]
      exact follows_refused
  | true =>
      have stands := stands usable
      have located := locate_of_stands usable named grounded stands
      cases short : fits last with
      | false =>
          rw [short, if_neg Bool.false_ne_true] at located
          have skipped : Plan.textFile files.here path text = .refused := by
            simp [Plan.textFile, named, short]
          rw [writeHeld_of_error located, skipped]
          exact follows_refused
      | true =>
          rw [short, if_pos rfl, noDirectory] at located
          have found : files.locate path = .ok (files.placeOf path) := by
            rw [located]
            split <;> rfl
          have step : Plan.textFile files.here path text
              = .file (files.placeOf path) text.toUTF8 := by
            rw [Plan.textFile, usable, named, List.all_append, stands.all_fits]
            simp [short, placeOf, named]
          rw [step]
          exact writeHeld_follows_of_ok found text

theorem writeFile_follows (inside : Path.Descends path) (named : Path.names directory ≠ [])
    (grounded : files.Grounded) (text : String) :
    (files.writeFile directory path text).Follows
      (Plan.written files.here (Path.join directory path) text) files := by
  obtain ⟨parent, last, held, holds, target_eq, parent_eq⟩ :=
    Path.exists_parent_join named inside
  have unfolded : files.writeFile directory path text =
      (files.createDirectory parent).andThen (writeHeld (Path.join directory path) text) := by
    rw [writeFile, inside.leadsInside.isContained, Bool.not_true, if_neg Bool.false_ne_true]
    simp only [held]
    rfl
  have outer : Path.names parent ≠ [] := by
    rw [parent_eq]
    exact List.append_ne_nil_of_left_ne_nil named _
  have created := createDirectory_follows outer grounded
  rw [unfolded, Plan.written, held]
  show Follows ((files.createDirectory parent).andThen _)
    (Plan.directories files.here parent ++ _) files
  generalize files.createDirectory parent = result at created
  obtain ⟨error, after⟩ := result
  cases error with
  | some error => exact Performs.append_of_stopped _ created
  | none =>
      refine Performs.append created ?_
      rw [← created.here_eq]
      refine writeHeld_follows target_eq (Path.namesDirectory_join directory inside)
        (created.grounded grounded) (fun usable => ?_) text
      have ran := created.run_eq
      rw [Plan.directories, Path.isUsable_of_front usable holds.front, if_pos rfl] at ran
      have stands := Plan.stands_of_run (congrArg Prod.fst ran)
      rw [ran, start, holds.isAbsolute_eq, ← created.here_eq] at stands
      exact stands

theorem writeProject_follows {layout : Layout} {project : Project}
    (placed : WellPlaced layout project) (named : Path.names directory ≠ [])
    (grounded : files.Grounded) :
    (files.writeProject directory layout project).Follows
      (Plan.package files.here directory layout project) files := by
  have start : Follows (none, files) [] files := ⟨rfl, rfl⟩
  have created := start.foldl grounded layout.directories
    (fun name => createDirectory (Path.join directory name))
    (fun name => Plan.directories files.here (Path.join directory name))
    fun name mem after same there => by
      rw [← same]
      refine createDirectory_follows ?_ there
      rw [Path.names_join directory (placed.directories name mem).leadsInside.relative]
      exact List.append_ne_nil_of_left_ne_nil named _
  have written := created.foldl grounded project.files
    (fun file => writeFile directory file.1 file.2)
    (fun file => Plan.written files.here (Path.join directory file.1) file.2)
    fun file mem after same there => by
      rw [← same]
      exact writeFile_follows (placed.files file mem) named there file.2
  rw [List.nil_append] at written
  exact written

end Files.Written

namespace Plan

variable {here : Place} {output name path : String} {s : Step} {place : Place}

/-- The directories on the way to the output directory. -/
def wayTo (here : Place) (output : String) : List Step :=
  along (start here output) (Path.names output)

/-- The places in a directory of this name below the output directory. -/
def Below (here : Place) (output name : String) (place : Place) : Prop :=
  walk (start here output) (Path.names output) ++ [name] <+: place

/-- A path that leads to a directory of this name below the output directory, or further down. -/
structure LeadsBelow (here : Place) (output name path : String) : Prop where
  start_eq : start here path = start here output
  names_eq : ∃ more, Path.names path = Path.names output ++ name :: more ∧ ".." ∉ name :: more

theorem LeadsBelow.joined (isName : Path.IsName name) (inside : Path.Descends path) :
    LeadsBelow here output name (Path.join (Path.join output name) path) := by
  refine ⟨?_, Path.names path, ?_, ?_⟩
  · rw [start, start, Path.isAbsolute_join _ inside.leadsInside.relative,
      Path.isAbsolute_join _ isName.isAbsolute_eq]
  · rw [Path.names_join _ inside.leadsInside.relative, Path.names_join _ isName.isAbsolute_eq,
      isName.names_eq, List.append_assoc]
    rfl
  · exact mt List.mem_cons.mp (not_or.mpr ⟨isName.ne_dots.symm, inside.leadsInside.dots_not_mem⟩)

theorem LeadsBelow.exists_parent (here : Place) (output : String) (isName : Path.IsName name)
    (inside : Path.Descends path) :
    ∃ parent, Path.parent? (Path.join (Path.join output name) path) = some parent ∧
      LeadsBelow here output name parent := by
  have base : Path.names (Path.join output name) = Path.names output ++ [name] := by
    rw [Path.names_join _ isName.isAbsolute_eq, isName.names_eq]
  have named : Path.names (Path.join output name) ≠ [] := by simp [base]
  obtain ⟨parent, last, held, holds, -, names_eq⟩ := Path.exists_parent_join named inside
  have joined : LeadsBelow here output name _ := .joined isName inside
  obtain ⟨more, joined_eq, noDots⟩ := joined.names_eq
  refine ⟨parent, held, ?_, (Path.names path).dropLast, ?_, ?_⟩
  · rw [← joined.start_eq, start, start, holds.isAbsolute_eq]
  · rw [names_eq, base, List.append_assoc]
    rfl
  · have noDots := mt (fun mem => (List.dropLast_sublist _).subset mem) inside.leadsInside.dots_not_mem
    exact mt List.mem_cons.mp (not_or.mpr ⟨isName.ne_dots.symm, noDots⟩)

/-- Directories are created on the way to the output directory and below it. -/
theorem LeadsBelow.mem_directories (h : LeadsBelow here output name path)
    (mem : s ∈ directories here path) :
    s = .refused ∨ s ∈ wayTo here output ∨ ∃ place, s = .directory place ∧
      Below here output name place := by
  obtain ⟨more, names_eq, noDots⟩ := h.names_eq
  rw [directories] at mem
  split at mem
  · rw [h.start_eq, names_eq] at mem
    rcases mem_along_append mem with outer | inner
    · exact .inr (.inl outer)
    · obtain stopped | ⟨front, before, same, started⟩ := exists_of_mem_along inner
      · exact .inl stopped
      obtain ⟨first, rest, rfl⟩ := List.exists_cons_of_ne_nil started
      obtain ⟨rfl, -⟩ := List.cons_prefix_cons.mp before
      refine .inr (.inr ⟨_, same, ?_⟩)
      rw [walk_eq_append _ fun mem => noDots (before.subset mem), Below]
      exact (List.prefix_append_right_inj _).mpr (List.cons_prefix_cons.mpr ⟨rfl, List.nil_prefix⟩)
  · exact .inl (List.mem_singleton.mp mem)

/-- Directories are created from the way to the output directory on. -/
theorem LeadsBelow.first (h : LeadsBelow here output name path) (rest : List Step) :
    (directories here path ++ rest).head? = some .refused ∨
      wayTo here output <+: directories here path ++ rest := by
  obtain ⟨more, names_eq, -⟩ := h.names_eq
  rw [directories]
  split
  · rw [h.start_eq, names_eq]
    exact .inr ((along_extends _ _ _).trans (List.prefix_append _ _))
  · exact .inl rfl

theorem walk_joined (isName : Path.IsName name) (inside : Path.Descends path) :
    walk (start here (Path.join (Path.join output name) path))
        (Path.names (Path.join (Path.join output name) path))
      = walk (start here output) (Path.names output) ++ name :: Path.names path := by
  have joined : LeadsBelow here output name _ := .joined isName inside
  have noDots := mt List.mem_cons.mp
    (not_or.mpr ⟨isName.ne_dots.symm, inside.leadsInside.dots_not_mem⟩)
  rw [joined.start_eq, Path.names_join _ inside.leadsInside.relative,
    Path.names_join _ isName.isAbsolute_eq, isName.names_eq, List.append_assoc, walk_append,
    List.singleton_append, walk_eq_append _ noDots]

variable {layout : Layout} {project : Project} {content : ByteArray}

theorem mem_textFile (isName : Path.IsName name) (inside : Path.Descends path) {text : String}
    (mem : .file place content = textFile here (Path.join (Path.join output name) path) text) :
    place = walk (start here output) (Path.names output) ++ name :: Path.names path ∧
      content = text.toUTF8 := by
  rw [textFile, walk_joined isName inside] at mem
  split at mem
  · exact Step.file.inj mem
  · cases mem

theorem mem_package (isName : Path.IsName name) (placed : WellPlaced layout project)
    (mem : s ∈ package here (Path.join output name) layout project) :
    (∃ path, LeadsBelow here output name path ∧ s ∈ directories here path) ∨
      ∃ file ∈ project.files,
        s = textFile here (Path.join (Path.join output name) file.1) file.2 := by
  rcases List.mem_append.mp mem with inner | inner
  · obtain ⟨dir, listed, mem⟩ := List.mem_flatMap.mp inner
    exact .inl ⟨_, .joined isName (placed.directories dir listed), mem⟩
  · obtain ⟨file, listed, mem⟩ := List.mem_flatMap.mp inner
    obtain ⟨parent, held, below⟩ :=
      LeadsBelow.exists_parent here output isName (placed.files file listed)
    rw [written, held] at mem
    rcases List.mem_append.mp mem with outer | last
    · exact .inl ⟨parent, below, outer⟩
    · exact .inr ⟨file, listed, List.mem_singleton.mp last⟩

theorem file_mem_package (isName : Path.IsName name) (placed : WellPlaced layout project)
    (mem : .file place content ∈ package here (Path.join output name) layout project) :
    ∃ file ∈ project.files,
      place = walk (start here output) (Path.names output) ++ name :: Path.names file.1 ∧
        content = file.2.toUTF8 := by
  rcases mem_package isName placed mem with ⟨path, below, inner⟩ | ⟨file, listed, same⟩
  · rcases below.mem_directories inner with stopped | outer | ⟨_, same, -⟩
    · cases stopped
    · rcases exists_of_mem_along outer with stopped | ⟨_, _, same, _⟩
      · cases stopped
      · cases same
    · cases same
  · exact ⟨file, listed, mem_textFile isName (placed.files file listed) same⟩

theorem package_first (here : Place) (output : String) (isName : Path.IsName name)
    (placed : WellPlaced layout project) :
    (package here (Path.join output name) layout project).head? = some .refused ∨
      wayTo here output <+: package here (Path.join output name) layout project := by
  rw [package]
  cases listed : layout.directories with
  | cons dir dirs =>
      have inside := placed.directories dir (listed ▸ .head _)
      rw [List.flatMap_cons, List.append_assoc]
      exact (LeadsBelow.joined isName inside).first _
  | nil =>
      obtain ⟨file, files, split⟩ := List.exists_cons_of_ne_nil placed.nonempty
      have inside := placed.files file (split ▸ .head _)
      obtain ⟨parent, held, below⟩ := LeadsBelow.exists_parent here output isName inside
      rw [List.flatMap_nil, List.nil_append, split, List.flatMap_cons, written, held,
        List.append_assoc]
      exact below.first _

/-- A package goes the way to the output directory, and stays in a directory of its own there. -/
theorem package_within (isName : Path.IsName name) (placed : WellPlaced layout project) :
    Within (wayTo here output) (Below here output name)
      (package here (Path.join output name) layout project) where
  first := package_first here output isName placed
  directory mem := by
    rcases mem_package isName placed mem with ⟨path, below, inner⟩ | ⟨file, _, same⟩
    · rcases below.mem_directories inner with stopped | outer | ⟨place, same, own⟩
      · cases stopped
      · exact .inl outer
      · cases same
        exact .inr own
    · rw [textFile] at same
      split at same <;> cases same
  file mem := by
    obtain ⟨file, -, rfl, -⟩ := file_mem_package isName placed mem
    exact (List.prefix_append_right_inj _).mpr (List.cons_prefix_cons.mpr ⟨rfl, List.nil_prefix⟩)
  single mem mem' := by
    obtain ⟨file, listed, place_eq, rfl⟩ := file_mem_package isName placed mem
    obtain ⟨file', listed', place_eq', rfl⟩ := file_mem_package isName placed mem'
    have names_eq := (List.cons.inj (List.append_cancel_left (place_eq.symm.trans place_eq'))).2
    have path_eq := (placed.files file listed).eq_of_names_eq (placed.files file' listed') names_eq
    rw [List.inj_on_of_nodup_map placed.distinct listed listed' path_eq]

end Plan

end ClientGen
