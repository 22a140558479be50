import ClientGen.Proofs.Files.Names
import ClientGen.Proofs.Files.Plan
import ClientGen.Proofs.Lookup

/-! # Creating directories

Directories are created from a path backwards, but what comes out is a walk along its names: every
directory on the way that is missing is created, up to the first name that something else stands in
the way of. So creating them carries out a plan, which depends on nothing but the path and the
working directory.
-/

namespace ClientGen

namespace Place

/-- The place that a name leads to. -/
def enter (place : Place) (name : String) : Place :=
  if name = ".." then place.dropLast else place ++ [name]

/-- The place that names lead to. -/
def walk (place : Place) (names : List String) : Place :=
  names.foldl enter place

/-- Whether a name is not too long to be followed. -/
def fits (name : String) : Bool :=
  name = ".." || name.utf8ByteSize ≤ Files.maxNameBytes

/-- Where a path starts. -/
def start (here : Place) (path : String) : Place :=
  if Path.isAbsolute path then [] else here

@[simp]
theorem walk_nil (place : Place) : walk place [] = place := rfl

@[simp]
theorem walk_cons (place : Place) (name : String) (names : List String) :
    walk place (name :: names) = walk (enter place name) names := rfl

theorem walk_append (place : Place) (names more : List String) :
    walk place (names ++ more) = walk (walk place names) more :=
  List.foldl_append

theorem walk_eq_append (place : Place) {names : List String} (inside : ".." ∉ names) :
    walk place names = place ++ names := by
  induction names generalizing place with
  | nil => exact (List.append_nil place).symm
  | cons name rest ih =>
      obtain ⟨first, others⟩ := not_or.mp (mt List.mem_cons.mpr inside)
      rw [walk_cons, ih _ others, enter, if_neg (Ne.symm first), List.append_assoc,
        List.singleton_append]

end Place

/-- The place that a path leads to, whatever stands on the way. -/
def Files.placeOf (files : Files) (path : String) : Place :=
  Place.walk (Place.start files.here path) (Path.names path)

/-- Whether a path has no null character and is not too long. -/
def Path.isUsable (path : String) : Bool :=
  !path.toList.contains '\x00' && path.utf8ByteSize ≤ Files.maxPathBytes

theorem Path.isUsable_of_front {parent path : String} (usable : isUsable path = true)
    (front : parent.toList <+: path.toList) : isUsable parent = true := by
  obtain ⟨rest, chars⟩ := front
  obtain rfl : parent ++ String.ofList rest = path :=
    String.toList_injective (by simp [chars])
  simp only [isUsable, Bool.and_eq_true, Bool.not_eq_true', List.contains_eq_mem,
    decide_eq_false_iff_not, decide_eq_true_eq, String.toList_append, List.mem_append, not_or,
    String.utf8ByteSize_append] at usable ⊢
  obtain ⟨⟨plain, -⟩, short⟩ := usable
  exact ⟨plain, Nat.le_trans (Nat.le_add_right _ _) short⟩

namespace Plan

open Place

/-- A directory at every place that names lead to. -/
def along (place : Place) : List String → List Step
  | [] => []
  | name :: rest =>
    if fits name then .directory (enter place name) :: along (enter place name) rest
    else [.refused]

/-- The directory of a path and those on the way to it. -/
def directories (here : Place) (path : String) : List Step :=
  if Path.isUsable path then along (start here path) (Path.names path) else [.refused]

variable {view : View} {place : Place} {name : String} {names more : List String}

theorem run_along_append (place : Place) (names more : List String) (view : View) :
    run (along place (names ++ more)) view
      = run (along place names ++ along (walk place names) more) view := by
  induction names generalizing place view with
  | nil => rfl
  | cons name rest ih =>
      rw [List.cons_append, along, along]
      cases fits name with
      | false => rfl
      | true =>
          simp only [if_true, List.cons_append]
          cases taken : (Step.directory (enter place name)).apply view with
          | none => rw [run_cons_none taken, run_cons_none taken]
          | some next =>
              rw [run_cons_some taken, run_cons_some taken, ih]
              rfl

theorem along_extends (place : Place) (names more : List String) :
    along place names <+: along place (names ++ more) := by
  induction names generalizing place with
  | nil => exact List.nil_prefix
  | cons name rest ih =>
      rw [List.cons_append, along, along]
      split
      · exact List.cons_prefix_cons.mpr ⟨rfl, ih _⟩
      · exact List.prefix_refl _

theorem mem_along_append {s : Step} (mem : s ∈ along place (names ++ more)) :
    s ∈ along place names ∨ s ∈ along (walk place names) more := by
  induction names generalizing place with
  | nil => exact .inr mem
  | cons name rest ih =>
      rw [List.cons_append, along] at mem
      rw [along]
      split at mem
      · rename_i short
        rw [if_pos short]
        cases mem with
        | head => exact .inl (.head _)
        | tail _ mem => exact (ih mem).imp_left (.tail _)
      · rename_i long
        rw [if_neg long]
        exact .inl mem

theorem exists_of_mem_along {s : Step} (mem : s ∈ along place names) :
    s = .refused ∨ ∃ front, front <+: names ∧ s = .directory (walk place front) ∧ front ≠ [] := by
  induction names generalizing place with
  | nil => cases mem
  | cons name rest ih =>
      rw [along] at mem
      split at mem
      · rcases List.mem_cons.mp mem with rfl | inner
        · refine .inr ⟨[name], ?_, rfl, List.cons_ne_nil _ _⟩
          exact List.prefix_append [name] rest
        · refine (ih inner).imp_right ?_
          rintro ⟨front, before, rfl, -⟩
          exact ⟨name :: front, List.cons_prefix_cons.mpr ⟨rfl, before⟩, rfl, List.cons_ne_nil _ _⟩
      · exact .inl (List.mem_singleton.mp mem)

/-- Directories stand at all places that the names lead to. -/
inductive Stands (view : View) : Place → List String → Prop
  | nil (place : Place) : Stands view place []
  | cons {place : Place} {name : String} {rest : List String} (short : fits name = true)
      (there : view (enter place name) = some .directory)
      (others : Stands view (enter place name) rest) : Stands view place (name :: rest)

theorem apply_directory_there (there : view place = some .directory) :
    (Step.directory place).apply view = some view := by
  refine Step.apply_eq_some.mpr ⟨place, .directory, rfl, by rw [there]; rfl, ?_⟩
  rw [← there, Function.update_eq_self]

theorem apply_directory_blocked {content : ByteArray} (found : view place = some (.file content)) :
    (Step.directory place).apply view = none := by
  simp [Step.apply, Step.place?, found, Step.stored?]

namespace Stands

theorem all_fits (h : Stands view place names) : names.all fits = true := by
  induction h with
  | nil => rfl
  | cons short _ _ ih => rw [List.all_cons, short, ih, Bool.true_and]

theorem run_eq (h : Stands view place names) : run (along place names) view = (true, view) := by
  induction h with
  | nil => rfl
  | cons short there _ ih => rw [along, if_pos short, run_cons_some (apply_directory_there there), ih]

theorem walk_there (h : Stands view place names) (there : view place = some .directory) :
    view (walk place names) = some .directory := by
  induction h with
  | nil => exact there
  | cons _ next _ ih => exact ih next

end Stands

theorem run_directory (plan : List Step) (there : view place = some .directory) :
    (run plan view).2 place = some .directory := by
  have change := run_change plan view place
  rw [there] at change
  exact change.of_directory

theorem stands_of_run (done : (run (along place names) view).1 = true) :
    Stands (run (along place names) view).2 place names := by
  induction names generalizing place view with
  | nil => exact .nil _
  | cons name rest ih =>
      rw [along] at done ⊢
      cases short : fits name with
      | false => simp [short] at done
      | true =>
          simp only [short, if_true] at done ⊢
          cases taken : (Step.directory (enter place name)).apply view with
          | none => simp [run_cons_none taken] at done
          | some next =>
              rw [run_cons_some taken] at done ⊢
              have there := Step.directory_of_apply taken
              exact .cons short (run_directory _ there) (ih done)

end Plan

namespace Files

open Place

variable {files : Files} {place other : Place} {name path : String} {names : List String}

theorem putEntry_inserts (place : Place) (entry : FileEntry)
    (entries : List (Place × FileEntry)) :
    Inserts place entry entries (putEntry place entry entries) := by
  induction entries with
  | nil => exact .front []
  | cons head rest ih =>
      obtain ⟨other, old⟩ := head
      rw [putEntry]
      split
      · rename_i same
        subst same
        exact .replace old rest
      · rename_i distinct
        exact .behind old distinct ih

/-- Putting an entry where no directory stands changes what stands there, and nothing else. -/
theorem get?_put {entry : FileEntry} (free : files.get? place ≠ some .directory) :
    (files.put place entry).get? = Function.update files.get? place (some entry) := by
  have inner : place ≠ [] := by
    rintro rfl
    exact free rfl
  funext other
  by_cases root : other = []
  · subst root
    rw [Function.update_of_ne inner.symm]
    rfl
  · have written : (files.put place entry).get? other
        = (putEntry place entry files.entries).lookup other := if_neg root
    rw [written, (putEntry_inserts place entry files.entries).lookup_eq, Function.update_apply]
    split
    · rfl
    · exact (if_neg root).symm

/-- The working directory is there. -/
def Grounded (files : Files) : Prop :=
  files.get? files.here = some .directory

theorem Grounded.start_there (h : files.Grounded) (path : String) :
    files.get? (start files.here path) = some .directory := by
  rw [start]
  split
  · rfl
  · exact h

/-- Carrying out a plan takes files to others. -/
structure Performs (plan : List Step) (files : Files) (done : Bool) (after : Files) : Prop where
  here_eq : after.here = files.here
  run_eq : Plan.run plan files.get? = (done, after.get?)

namespace Performs

variable {plan plan' : List Step} {done : Bool} {after : Files}

theorem grounded (h : Performs plan files done after) (there : files.Grounded) :
    after.Grounded := by
  have kept := Plan.run_directory plan there
  rw [h.run_eq] at kept
  rw [Grounded, h.here_eq]
  exact kept

theorem of_run_eq (h : Performs plan files done after)
    (same : Plan.run plan' files.get? = Plan.run plan files.get?) :
    Performs plan' files done after :=
  ⟨h.here_eq, same.trans h.run_eq⟩

theorem append {next : Files} (first : Performs plan files true after)
    (second : Performs plan' after done next) : Performs (plan ++ plan') files done next := by
  refine ⟨second.here_eq.trans first.here_eq, ?_⟩
  rw [Plan.run_append, first.run_eq]
  exact second.run_eq

theorem append_of_stopped (plan' : List Step) (first : Performs plan files false after) :
    Performs (plan ++ plan') files false after := by
  refine ⟨first.here_eq, ?_⟩
  rw [Plan.run_append, first.run_eq]
  rfl

end Performs

theorem follow_of_directory (there : files.get? place = some .directory) :
    files.follow place name
      = if fits name then .ok (enter place name) else .error .nameTooLong := by
  rw [follow, there, fits, enter]
  by_cases dots : name = ".."
  · simp [dots]
  · by_cases long : maxNameBytes < name.utf8ByteSize
    · simp [dots, long, Nat.not_le.mpr long]
    · simp [dots, long, Nat.not_lt.mp long]

theorem foldlM_follow_cons (there : files.get? place = some .directory) :
    (name :: names).foldlM files.follow place
      = if fits name then names.foldlM files.follow (enter place name)
        else .error .nameTooLong := by
  rw [List.foldlM_cons, follow_of_directory there]
  cases fits name <;> rfl

theorem foldlM_follow_of_stands (stands : Plan.Stands files.get? place names)
    (there : files.get? place = some .directory) :
    names.foldlM files.follow place = .ok (walk place names) := by
  induction stands with
  | nil => rfl
  | cons short next _ ih => rw [foldlM_follow_cons there, if_pos short, ih next, walk_cons]

theorem foldlM_follow_concat {error : FileError}
    (stopped : ∀ name, files.follow place name = .error error) (names : List String)
    (last : String) : (names ++ [last]).foldlM files.follow place = .error error := by
  obtain ⟨first, more, split⟩ : ∃ first more, names ++ [last] = first :: more :=
    List.exists_cons_of_ne_nil (by simp)
  rw [split, List.foldlM_cons, stopped]
  rfl

/-- How far names lead: to a directory; to something that keeps the directories on the way from
    being created; or to a place where nothing stands yet. -/
theorem follow_cases (names : List String) (there : files.get? place = some .directory) :
    Plan.Stands files.get? place names ∨
      (Plan.run (Plan.along place names) files.get? = (false, files.get?) ∧
        ∃ error, error ≠ .notFound ∧ error ≠ .alreadyExists ∧ ∀ last,
          (names ++ [last]).foldlM files.follow place = .error error) ∨
      ∀ last, (names ++ [last]).foldlM files.follow place = .error .notFound := by
  induction names generalizing place with
  | nil => exact .inl (.nil _)
  | cons name rest ih =>
      simp only [List.cons_append, foldlM_follow_cons there, Plan.along]
      cases short : fits name with
      | false => exact .inr (.inl ⟨rfl, .nameTooLong, by decide, by decide, fun _ => rfl⟩)
      | true =>
          simp only [if_true]
          cases found : files.get? (enter place name) with
          | none =>
              have stopped (next : String) :
                  files.follow (enter place name) next = .error .notFound := by
                rw [follow, found]
              exact .inr (.inr (foldlM_follow_concat stopped rest))
          | some entry =>
              cases entry with
              | file content =>
                  have blocked := Plan.apply_directory_blocked found
                  have stopped (next : String) :
                      files.follow (enter place name) next = .error .notDirectory := by
                    rw [follow, found]
                  exact .inr (.inl ⟨Plan.run_cons_none blocked, .notDirectory, by decide, by decide,
                    foldlM_follow_concat stopped rest⟩)
              | directory =>
                  rw [Plan.run_cons_some (Plan.apply_directory_there found)]
                  exact (ih found).imp_left (.cons short found)

theorem locate_eq (files : Files) (usable : Path.isUsable path = true) (nonempty : path ≠ "") :
    files.locate path
      = ((Path.names path).foldlM files.follow (start files.here path)).bind fun place =>
          match files.get? place with
          | some (.file _) => if Path.namesDirectory path then .error .notDirectory else .ok place
          | _ => .ok place := by
  simp only [Path.isUsable, Bool.and_eq_true, Bool.not_eq_true', decide_eq_true_eq] at usable
  obtain ⟨plain, short⟩ := usable
  rw [locate, plain, if_neg Bool.false_ne_true, if_neg nonempty, if_neg (Nat.not_lt.mpr short)]
  rfl

theorem locate_of_not_usable (files : Files) (unusable : Path.isUsable path = false) :
    ∃ error, error ≠ .notFound ∧ error ≠ .alreadyExists ∧ files.locate path = .error error := by
  by_cases null : path.toList.contains '\x00' = true
  · refine ⟨.nullByte, by decide, by decide, ?_⟩
    rw [locate, null]
    rfl
  · have plain : '\x00' ∉ path.toList := by simpa using null
    have long : maxPathBytes < path.utf8ByteSize := by
      simpa [Path.isUsable, plain] using unusable
    have nonempty : path ≠ "" := by
      rintro rfl
      exact absurd long (by decide)
    refine ⟨.nameTooLong, by decide, by decide, ?_⟩
    rw [locate, if_neg null, if_neg nonempty, if_pos long]
    rfl

theorem locate_of_stands {last : String} (usable : Path.isUsable path = true)
    (named : Path.names path = names ++ [last]) (grounded : files.Grounded)
    (stands : Plan.Stands files.get? (start files.here path) names) :
    files.locate path
      = if fits last then
          match files.get? (files.placeOf path) with
          | some (.file _) =>
            if Path.namesDirectory path then .error .notDirectory else .ok (files.placeOf path)
          | _ => .ok (files.placeOf path)
        else .error .nameTooLong := by
  have nonempty : path ≠ "" := by
    rintro rfl
    exact List.append_ne_nil_of_right_ne_nil _ (List.cons_ne_nil last []) named.symm
  have begun := grounded.start_there path
  rw [locate_eq files usable nonempty, placeOf, named, List.foldlM_append,
    foldlM_follow_of_stands stands begun, walk_append]
  show ((List.foldlM files.follow _ [last]).bind _) = _
  rw [foldlM_follow_cons (stands.walk_there begun)]
  cases fits last <;> rfl

/-- Create a directory in one that exists, unless it is there already. -/
def makeLast (files : Files) (path : String) : Option FileError × Files :=
  match files.makeDirectory path with
  | .ok files => (none, files)
  | .error error => files.reuseDirectory path error

theorem makeDirectory_of_error {error : FileError} (h : files.locate path = .error error) :
    files.makeDirectory path = .error error := by
  rw [makeDirectory, h]
  rfl

theorem makeDirectory_of_ok (h : files.locate path = .ok place) :
    files.makeDirectory path = match files.get? place with
      | some _ => .error .alreadyExists
      | none => .ok (files.put place .directory) := by
  rw [makeDirectory, h]
  rfl

theorem find?_of_ok (h : files.locate path = .ok place) : files.find? path = files.get? place := by
  rw [find?, h]

theorem reuseDirectory_of_ne {error : FileError}
    (other : error ≠ .alreadyExists ∨ files.find? path ≠ some .directory) :
    files.reuseDirectory path error = (some error, files) := by
  rw [reuseDirectory, isDirectory, if_neg]
  rcases other with other | other <;> simp [other]

/-- A directory cannot be created where it would be too long a name, or where a file is. -/
theorem Performs.of_stopped {plan : List Step} {error : FileError}
    (stopped : Plan.run plan files.get? = (false, files.get?))
    (failed : files.makeDirectory path = .error error)
    (other : error ≠ .alreadyExists ∨ files.find? path ≠ some .directory) :
    Performs plan files (files.makeLast path).1.isNone (files.makeLast path).2 := by
  rw [makeLast, failed]
  simp only [reuseDirectory_of_ne other]
  exact ⟨rfl, stopped⟩

theorem Performs.of_free (free : files.get? place = none)
    (created : files.makeDirectory path = .ok (files.put place .directory)) :
    Performs [.directory place] files (files.makeLast path).1.isNone (files.makeLast path).2 := by
  rw [makeLast, created]
  refine ⟨rfl, ?_⟩
  rw [get?_put (by simp [free])]
  refine Plan.run_cons_some (Step.apply_eq_some.mpr ⟨_, .directory, rfl, ?_, rfl⟩)
  rw [free]
  rfl

theorem makeLast_of_there (located : files.locate path = .ok place)
    (there : files.get? place = some .directory) : files.makeLast path = (none, files) := by
  have failed := makeDirectory_of_ok located
  rw [there] at failed
  rw [makeLast, failed]
  simp [reuseDirectory, isDirectory, find?_of_ok located, there]

theorem Performs.of_there (located : files.locate path = .ok place)
    (there : files.get? place = some .directory) :
    Performs [.directory place] files (files.makeLast path).1.isNone (files.makeLast path).2 := by
  rw [makeLast_of_there located there]
  exact ⟨rfl, Plan.run_cons_some (Plan.apply_directory_there there)⟩

theorem makeLast_performs {last : String} (usable : Path.isUsable path = true)
    (named : Path.names path = names ++ [last]) (grounded : files.Grounded)
    (stands : Plan.Stands files.get? (start files.here path) names) :
    files.makeDirectory path ≠ .error .notFound ∧
      Performs (Plan.along (walk (start files.here path) names) [last]) files
        (files.makeLast path).1.isNone (files.makeLast path).2 := by
  have located := locate_of_stands usable named grounded stands
  have place_eq : enter (walk (start files.here path) names) last = files.placeOf path := by
    rw [placeOf, named, walk_append]
    rfl
  rw [Plan.along, place_eq]
  cases short : fits last with
  | false =>
      rw [short, if_neg Bool.false_ne_true] at located
      have failed := makeDirectory_of_error located
      exact ⟨by simp [failed], .of_stopped rfl failed (.inl (by decide))⟩
  | true =>
      rw [short, if_pos rfl] at located
      rw [if_pos rfl, Plan.along]
      cases found : files.get? (files.placeOf path) with
      | none =>
          rw [found] at located
          have created := makeDirectory_of_ok located
          rw [found] at created
          exact ⟨by simp [created], .of_free found created⟩
      | some entry =>
          cases entry with
          | directory =>
              rw [found] at located
              have failed := makeDirectory_of_ok located
              rw [found] at failed
              exact ⟨by simp [failed], .of_there located found⟩
          | file content =>
              have blocked : Plan.run [.directory (files.placeOf path)] files.get?
                  = (false, files.get?) := Plan.run_cons_none (Plan.apply_directory_blocked found)
              rw [found] at located
              by_cases slash : Path.namesDirectory path = true
              · rw [slash] at located
                have failed := makeDirectory_of_error located
                exact ⟨by simp [failed], .of_stopped blocked failed (.inl (by decide))⟩
              · simp only [slash, Bool.false_eq_true, if_false] at located
                have failed := makeDirectory_of_ok located
                rw [found] at failed
                refine ⟨by simp [failed], .of_stopped blocked failed (.inr ?_)⟩
                simp [find?_of_ok located, found]

section Held

variable {parent : String} {fuel : Nat}

theorem ne_empty_of_parent? (held : Path.parent? path = some parent) : path ≠ "" := by
  rintro rfl
  cases held

theorem makeDirectoriesFrom_succ (held : Path.parent? path = some parent) :
    makeDirectoriesFrom (fuel + 1) path files
      = match files.makeDirectory path with
        | .ok files => (none, files)
        | .error .notFound =>
          match makeDirectoriesFrom fuel parent files with
          | (none, files) => files.makeLast path
          | failed => failed
        | .error error => files.reuseDirectory path error := by
  conv_lhs => unfold makeDirectoriesFrom
  split
  · cases held
  · rename_i root
    cases held.symm.trans root
  · rename_i held'
    cases held.symm.trans held'
    rfl

theorem makeDirectoriesFrom_of_ne (held : Path.parent? path = some parent)
    (other : files.makeDirectory path ≠ .error .notFound) :
    makeDirectoriesFrom (fuel + 1) path files = files.makeLast path := by
  rw [makeDirectoriesFrom_succ held, makeLast]
  cases made : files.makeDirectory path with
  | ok => rfl
  | error error =>
      cases error with
      | notFound => exact absurd made other
      | _ => rfl

theorem makeDirectoriesFrom_of_notFound (held : Path.parent? path = some parent)
    (missing : files.makeDirectory path = .error .notFound) :
    makeDirectoriesFrom (fuel + 1) path files
      = match makeDirectoriesFrom fuel parent files with
        | (none, files) => files.makeLast path
        | failed => failed := by
  rw [makeDirectoriesFrom_succ held, missing]

theorem makeDirectoriesFrom_of_parent?_none (root : Path.parent? path = none) :
    makeDirectoriesFrom (fuel + 1) path files = (none, files) := by
  unfold makeDirectoriesFrom
  split
  · rfl
  · rfl
  · rename_i held
    cases held.symm.trans root

theorem makeDirectoriesFrom_of_names_nil (held : Path.parent? path = some parent)
    (usable : Path.isUsable path = true) (grounded : files.Grounded)
    (dots : Path.names path = []) : makeDirectoriesFrom (fuel + 1) path files = (none, files) := by
  have begun := grounded.start_there path
  have stays : files.locate path = .ok (start files.here path) := by
    rw [locate_eq files usable (ne_empty_of_parent? held), dots]
    show Except.bind (.ok (start files.here path)) _ = _
    simp only [Except.bind, begun]
  have failed := makeDirectory_of_ok stays
  rw [begun] at failed
  rw [makeDirectoriesFrom_of_ne held (by simp [failed]), makeLast_of_there stays begun]

/-- The directories of a path are those of what holds it, and then its last one. -/
theorem makeDirectoriesFrom_step {last : String} (held : Path.parent? path = some parent)
    (usable : Path.isUsable path = true) (named : Path.names path = Path.names parent ++ [last])
    (grounded : files.Grounded)
    (outer : Performs (Plan.along (start files.here path) (Path.names parent)) files
      (makeDirectoriesFrom fuel parent files).1.isNone (makeDirectoriesFrom fuel parent files).2) :
    Performs (Plan.along (start files.here path) (Path.names path)) files
      (makeDirectoriesFrom (fuel + 1) path files).1.isNone
      (makeDirectoriesFrom (fuel + 1) path files).2 := by
  rw [named]
  refine Performs.of_run_eq ?_ (Plan.run_along_append _ _ _ _)
  have located (error : FileError) (stopped : (Path.names parent ++ [last]).foldlM
      files.follow (start files.here path) = .error error) :
      files.makeDirectory path = .error error := by
    refine makeDirectory_of_error ?_
    rw [locate_eq files usable (ne_empty_of_parent? held), named, stopped]
    rfl
  rcases follow_cases (Path.names parent) (grounded.start_there path) with
    stands | ⟨stopped, error, other, other', led⟩ | missing
  · -- the others are there
    obtain ⟨found, performs⟩ := makeLast_performs usable named grounded stands
    rw [makeDirectoriesFrom_of_ne held found]
    exact Performs.append ⟨rfl, stands.run_eq⟩ performs
  · -- something else stands in their way
    have failed := located error (led last)
    rw [makeDirectoriesFrom_of_ne held (by simp [failed, other])]
    refine .of_stopped ?_ failed (.inl other')
    rw [Plan.run_append, stopped]
    rfl
  · -- some are missing
    rw [makeDirectoriesFrom_of_notFound held (located .notFound (missing last))]
    generalize makeDirectoriesFrom fuel parent files = result at outer ⊢
    obtain ⟨error, after⟩ := result
    cases error with
    | some error => exact outer.append_of_stopped _
    | none =>
        have stands := Plan.stands_of_run (congrArg Prod.fst outer.run_eq)
        rw [outer.run_eq] at stands
        have inner := makeLast_performs usable named (outer.grounded grounded)
          (by rw [outer.here_eq]; exact stands)
        rw [outer.here_eq] at inner
        exact outer.append inner.2

end Held

/-- Directories are created as if one went along the names of the path. -/
theorem makeDirectoriesFrom_performs {fuel : Nat} (enough : path.length < fuel)
    (usable : Path.isUsable path = true) (grounded : files.Grounded) :
    Performs (Plan.along (start files.here path) (Path.names path)) files
      (makeDirectoriesFrom fuel path files).1.isNone (makeDirectoriesFrom fuel path files).2 := by
  induction fuel generalizing path files with
  | zero => cases enough
  | succ fuel ih =>
      cases held : Path.parent? path with
      | none =>
          rw [makeDirectoriesFrom_of_parent?_none held, Path.names_of_parent?_none held]
          exact ⟨rfl, rfl⟩
      | some parent =>
          have holds := Path.holds_of_parent? held
          rcases holds.names with ⟨same, empty⟩ | ⟨last, named⟩
          · rw [empty] at same
            rw [makeDirectoriesFrom_of_names_nil held usable grounded same, same]
            exact ⟨rfl, rfl⟩
          · have shorter := Nat.lt_of_lt_of_le holds.shorter (Nat.le_of_lt_succ enough)
            have outer := ih shorter (Path.isUsable_of_front usable holds.front) grounded
            rw [start, holds.isAbsolute_eq, ← start] at outer
            exact makeDirectoriesFrom_step held usable named grounded outer

/-- Creating directories carries out the plan of the path. -/
theorem makeDirectories_performs (named : Path.names path ≠ []) (grounded : files.Grounded) :
    Performs (Plan.directories files.here path) files (files.makeDirectories path).1.isNone
      (files.makeDirectories path).2 := by
  rw [makeDirectories, Plan.directories]
  cases usable : Path.isUsable path with
  | true => exact makeDirectoriesFrom_performs (Nat.lt_succ_self _) usable grounded
  | false =>
      cases held : Path.parent? path with
      | none => exact absurd (Path.names_of_parent?_none held) named
      | some parent =>
          obtain ⟨error, missing, exists', located⟩ := locate_of_not_usable files usable
          have failed := makeDirectory_of_error located
          rw [makeDirectoriesFrom_of_ne held (by simp [failed, missing])]
          exact .of_stopped rfl failed (.inl exists')

end Files

end ClientGen
