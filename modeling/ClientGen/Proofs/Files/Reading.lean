import ClientGen.Proofs.Files.Directories
import ClientGen.Proofs.Json.Fields

/-! # Reading again

As long as directories stay where they are, a path that could be followed leads to the same place,
and a file there that has not been written to is read as before.
-/

namespace ClientGen.Files

open Place Json

variable {files after : Files} {place other : Place} {name path text : String}
  {names : List String}

/-- Other files with the same working directory in which all directories are still there. -/
structure Keeps (files after : Files) : Prop where
  here_eq : after.here = files.here
  directory : ∀ place, files.get? place = some .directory → after.get? place = some .directory

/-- If one of the files stands at a place, so does the same one of the others. -/
def Untouched (files after : Files) (place : Place) : Prop :=
  ∀ content, after.get? place = some (.file content) ↔ files.get? place = some (.file content)

theorem follow_eq_ok : files.follow place name = .ok other ↔
    files.get? place = some .directory ∧ fits name = true ∧ other = enter place name := by
  cases found : files.get? place with
  | none => simp [follow, found]
  | some entry =>
      cases entry with
      | file content => simp [follow, found]
      | directory =>
          rw [follow_of_directory found]
          cases fits name <;> simp [eq_comm]

theorem foldlM_follow_eq_ok (led : names.foldlM files.follow place = .ok other) :
    other = walk place names := by
  induction names generalizing place with
  | nil =>
      cases led
      rfl
  | cons name rest ih =>
      rw [List.foldlM_cons] at led
      obtain ⟨next, followed, led⟩ := bind_eq_ok.mp led
      obtain ⟨-, -, rfl⟩ := follow_eq_ok.mp followed
      exact ih led

theorem locate_eq_ok (located : files.locate path = .ok place) :
    Path.isUsable path = true ∧ path ≠ "" ∧
      (Path.names path).foldlM files.follow (start files.here path) = .ok place ∧
      place = files.placeOf path := by
  cases usable : Path.isUsable path with
  | false =>
      obtain ⟨error, -, -, failed⟩ := locate_of_not_usable files usable
      cases failed.symm.trans located
  | true =>
      have nonempty : path ≠ "" := by
        rintro rfl
        cases located
      rw [locate_eq files usable nonempty] at located
      obtain ⟨found, led, ended⟩ := bind_eq_ok.mp located
      have same : found = place := by
        split at ended
        · split at ended
          · cases ended
          · exact Except.ok.inj ended
        · exact Except.ok.inj ended
      subst same
      exact ⟨rfl, nonempty, led, foldlM_follow_eq_ok led⟩

theorem read_eq_ok {content : ByteArray} : files.read path = .ok content ↔
    ∃ place, files.locate path = .ok place ∧ files.get? place = some (.file content) := by
  rw [read, bind_eq_ok]
  refine exists_congr fun place => and_congr_right fun _ => ?_
  cases files.get? place with
  | none => simp
  | some entry => cases entry <;> simp

namespace Keeps

theorem foldlM_follow (kept : Keeps files after)
    (led : names.foldlM files.follow place = .ok other) :
    names.foldlM after.follow place = .ok other := by
  induction names generalizing place with
  | nil => exact led
  | cons name rest ih =>
      rw [List.foldlM_cons] at led ⊢
      obtain ⟨next, followed, led⟩ := bind_eq_ok.mp led
      obtain ⟨there, short, rfl⟩ := follow_eq_ok.mp followed
      exact bind_ok (follow_eq_ok.mpr ⟨kept.directory place there, short, rfl⟩) (ih led)

theorem locate_eq (kept : Keeps files after) (located : files.locate path = .ok place)
    (same : after.get? place = files.get? place) : after.locate path = .ok place := by
  obtain ⟨usable, nonempty, led, -⟩ := locate_eq_ok located
  rw [Files.locate_eq files usable nonempty, led] at located
  rw [Files.locate_eq after usable nonempty, start, kept.here_eq, ← start, kept.foldlM_follow led]
  show Except.bind (.ok place) _ = _
  simp only [Except.bind, same]
  exact located

theorem find?_eq (kept : Keeps files after) (located : files.locate path = .ok place)
    (same : after.get? place = files.get? place) : after.find? path = files.find? path := by
  rw [find?, find?, kept.locate_eq located same, located]
  exact same

theorem readText_eq (kept : Keeps files after) (read : files.readText path = .ok text)
    (untouched : Untouched files after (files.placeOf path)) :
    after.readText path = files.readText path ∧ after.isFile path = files.isFile path := by
  rw [read]
  rw [readText] at read ⊢
  obtain ⟨content, found, decoded⟩ := bind_eq_ok.mp read
  obtain ⟨place, located, there⟩ := read_eq_ok.mp found
  obtain ⟨-, -, -, rfl⟩ := locate_eq_ok located
  have same := (untouched content).mpr there
  have again := kept.locate_eq located (same.trans there.symm)
  refine ⟨bind_ok (read_eq_ok.mpr ⟨_, again, same⟩) decoded, ?_⟩
  rw [isFile, isFile, kept.find?_eq located (same.trans there.symm)]

end Keeps

end ClientGen.Files
