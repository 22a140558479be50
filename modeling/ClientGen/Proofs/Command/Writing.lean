import ClientGen.Command.Generate
import ClientGen.Proofs.Files.Path

/-! # Writing packages

A package is written step by step, and the first step that fails ends the writing. As long as the
paths of its files lead inside of its directory, it never fails for a file that would be outside.
-/

namespace ClientGen

theorem Path.LeadsInside.isContained {path : String} (h : Path.LeadsInside path) :
    Files.isContained path = true := by
  simp [Files.isContained, h.relative, h.dots_not_mem]

namespace Files.Written

variable {written : Written} {files : Files} {path directory text : String}

/-- No file has been refused for being outside of the directory of its package. -/
def Inside (written : Written) : Prop :=
  ∀ path directory, written.1 ≠ some (.outside path directory)

theorem Inside.andThen {next : Files → Written} (h : written.Inside)
    (step : ∀ files, (next files).Inside) : (written.andThen next).Inside := by
  obtain ⟨error, files⟩ := written
  cases error with
  | none => exact step files
  | some error => exact h

theorem createDirectory_inside (path : String) (files : Files) :
    (files.createDirectory path).Inside := by
  intro other directory
  cases failed : (files.makeDirectories path).1 with
  | none => simp [createDirectory, failed]
  | some error => simp [createDirectory, failed]

theorem writeFile_inside (contained : isContained path = true) (directory text : String)
    (files : Files) : (files.writeFile directory path text).Inside := by
  rw [writeFile, contained, Bool.not_true, if_neg Bool.false_ne_true]
  refine Inside.andThen ?_ fun files => ?_
  · cases Path.parent? (Path.join directory path) with
    | none => exact fun _ _ => nofun
    | some parent => exact createDirectory_inside parent files
  · intro other outer
    split
    · exact nofun
    · exact nofun

theorem Inside.foldl {α : Type} {step : α → Files → Written} {xs : List α} (h : written.Inside)
    (each : ∀ x ∈ xs, ∀ files, (step x files).Inside) :
    (xs.foldl (fun written x => written.andThen (step x)) written).Inside := by
  induction xs generalizing written with
  | nil => exact h
  | cons x rest ih =>
      obtain ⟨first, others⟩ := List.forall_mem_cons.mp each
      exact ih (h.andThen first) others

theorem writeProject_inside (directory : String) (layout : Layout) {project : Project}
    (contained : ∀ file ∈ project.files, isContained file.1 = true) (files : Files) :
    (files.writeProject directory layout project).Inside := by
  have created : Inside (layout.directories.foldl
      (fun written name => written.andThen (createDirectory (Path.join directory name)))
      (none, files)) :=
    Inside.foldl (fun _ _ => nofun) fun name _ => createDirectory_inside (Path.join directory name)
  exact Inside.foldl created fun file mem =>
    writeFile_inside (contained file mem) directory file.2

end Files.Written

end ClientGen
