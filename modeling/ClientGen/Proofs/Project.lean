import ClientGen.Project
import ClientGen.Proofs.Lookup
import Mathlib.Data.String.Basic
import Mathlib.Data.List.Nodup

/-! # Files of a project

Putting files of different paths in their places keeps all of them, in the order of their
paths, and a file that is left out is the only one that is missing. Of files of the same path the
last one counts.
-/

namespace ClientGen.Project

variable {path content dropped : String} {files more : List (String × String)}

/-- Each path once, in the order of the paths. -/
def Ordered (files : List (String × String)) : Prop :=
  files.Pairwise fun a b => a.1 < b.1

theorem insertFile_perm (fresh : path ∉ files.map (·.1)) :
    (insertFile path content files).Perm ((path, content) :: files) := by
  induction files with
  | nil => exact .refl _
  | cons file rest ih =>
      obtain ⟨other, old⟩ := file
      simp only [List.map_cons, List.mem_cons, not_or] at fresh
      rw [insertFile, if_neg fresh.1]
      by_cases before : path < other
      · rw [if_pos before]
      · rw [if_neg before]
        exact ((ih fresh.2).cons _).trans (.swap _ _ _)

theorem insertFile_putsInOrder : PutsInOrder insertFile where
  last _ _ := rfl
  front _ _ _ smaller := by rw [insertFile, if_neg smaller.ne, if_pos smaller]
  replace _ _ _ _ := by rw [insertFile, if_pos rfl]
  behind _ _ _ greater := by rw [insertFile, if_neg greater.ne', if_neg greater.not_gt]

theorem Ordered.insertFile (h : Ordered files) : Ordered (insertFile path content files) :=
  insertFile_putsInOrder.pairwise path content h

theorem insertFile_of_lt (first : ∀ file ∈ files, path < file.1) :
    insertFile path content files = (path, content) :: files := by
  cases files with
  | nil => rfl
  | cons file rest =>
      have before := first file (.head _)
      rw [insertFile, if_neg before.ne, if_pos before]

theorem filter_insertFile_self :
    (insertFile path content files).filter (·.1 != path) = files.filter (·.1 != path) := by
  induction files with
  | nil => simp [insertFile]
  | cons file rest ih =>
      obtain ⟨other, old⟩ := file
      rw [insertFile]
      split
      · rename_i same
        simp [same]
      · split
        · simp
        · simp [List.filter_cons, ih]

theorem filter_insertFile (h : Ordered files) (kept : path ≠ dropped) :
    (insertFile path content files).filter (·.1 != dropped)
      = insertFile path content (files.filter (·.1 != dropped)) := by
  induction files with
  | nil => simp [insertFile, kept]
  | cons file rest ih =>
      obtain ⟨other, old⟩ := file
      obtain ⟨first, later⟩ := List.pairwise_cons.mp h
      by_cases gone : other = dropped
      · -- the new file may stop in front of the dropped one, and without it goes to the front
        subst gone
        rw [insertFile, if_neg kept]
        by_cases before : path < other
        · have front : insertFile path content (rest.filter (·.1 != other))
              = (path, content) :: rest.filter (·.1 != other) :=
            insertFile_of_lt fun file mem => before.trans (first file (List.mem_of_mem_filter mem))
          simp [before, kept, front]
        · simp [before, ih later]
      · rw [insertFile]
        by_cases same : path = other
        · simp [same, gone, insertFile]
        · by_cases before : path < other
          · simp [same, before, gone, kept, insertFile]
          · simp [same, before, gone, insertFile, ih later]

/-- Put files in their places, one after another. -/
def insertFiles (files start : List (String × String)) : List (String × String) :=
  files.foldl (fun placed file => insertFile file.1 file.2 placed) start

theorem insertFiles_cons {start : List (String × String)} :
    insertFiles ((path, content) :: files) start
      = insertFiles files (insertFile path content start) := rfl

theorem Ordered.insertFiles {start : List (String × String)} (h : Ordered start)
    (files : List (String × String)) : Ordered (insertFiles files start) := by
  induction files generalizing start with
  | nil => exact h
  | cons file rest ih => exact ih h.insertFile

theorem insertFiles_perm {start : List (String × String)}
    (distinct : ((files ++ start).map (·.1)).Nodup) :
    (insertFiles files start).Perm (files ++ start) := by
  induction files generalizing start with
  | nil => exact .refl _
  | cons file rest ih =>
      obtain ⟨path, content⟩ := file
      obtain ⟨fresh, others⟩ := List.nodup_cons.mp distinct
      have placed : (insertFile path content start).Perm ((path, content) :: start) :=
        insertFile_perm fun mem => fresh (by simp at mem ⊢; exact .inr mem)
      have moved : (rest ++ insertFile path content start).Perm
          ((path, content) :: (rest ++ start)) :=
        (placed.append_left rest).trans List.perm_middle
      exact (ih ((moved.map _).nodup_iff.mpr distinct)).trans moved

/-- Leaving a file out of a project is leaving it out of the files that are put there. -/
theorem filter_insertFiles {start : List (String × String)} (h : Ordered start) :
    (insertFiles files start).filter (·.1 != dropped)
      = insertFiles (files.filter (·.1 != dropped)) (start.filter (·.1 != dropped)) := by
  induction files generalizing start with
  | nil => rfl
  | cons file rest ih =>
      obtain ⟨path, content⟩ := file
      rw [insertFiles_cons, ih h.insertFile]
      by_cases gone : path = dropped
      · subst gone
        simp [filter_insertFile_self]
      · rw [filter_insertFile h gone, List.filter_cons_of_pos (by simpa using gone),
          insertFiles_cons]

theorem lookup_insertFiles (files start : List (String × String)) (path : String) :
    (insertFiles files start).lookup path
      = (files.reverse.lookup path).or (start.lookup path) :=
  lookup_foldl_insert insertFile_putsInOrder.inserts files start path

end ClientGen.Project
