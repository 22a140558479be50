import ClientGen.Files.Basic
import Mathlib.Data.List.Perm.Basic
import Mathlib.Logic.Function.Basic

/-! # Plans

What a run wants to write, as a list of steps. A run of a plan stops at the first step that
cannot be taken. Plans agree if at every place they want the same; then it does not matter in
which order they are run, or how often.
-/

namespace ClientGen

/-- What stands at each place. -/
abbrev View := Place → Option FileEntry

/-- A step of a plan. -/
inductive Step where
  /-- A directory has to stand at a place. It is created if nothing is there. -/
  | directory (place : Place)
  /-- A file is created or replaced. -/
  | file (place : Place) (content : ByteArray)
  /-- A path or name that cannot be followed. -/
  | refused

namespace Step

instance : (s : Step) → Decidable (s = refused)
  | directory _ | file _ _ => isFalse (by simp)
  | refused => isTrue rfl

def place? : Step → Option Place
  | directory place | file place _ => some place
  | refused => none

/-- What stands at the place of the step afterwards, unless what is there stands in the way. -/
def stored? : Step → Option FileEntry → Option FileEntry
  | directory _, none | directory _, some .directory => some .directory
  | file _ content, none | file _ content, some (.file _) => some (.file content)
  | _, _ => none

def apply (step : Step) (view : View) : Option View := do
  let place ← step.place?
  let entry ← step.stored? (view place)
  return Function.update view place (some entry)

/-- Two steps at one place are the same step. -/
def Agrees (step other : Step) : Prop :=
  ∀ place, step.place? = some place → other.place? = some place → step = other

/-- One of the steps wants a directory and the other a file at one place. -/
def clashes : Step → Step → Bool
  | directory place, file other _ | file place _, directory other => place = other
  | _, _ => false

variable {s t : Step} {view view' view₁ view₂ : View} {place : Place}

theorem Agrees.symm (h : s.Agrees t) : t.Agrees s :=
  fun place there here => (h place here there).symm

theorem apply_eq_some : s.apply view = some view' ↔
    ∃ place entry, s.place? = some place ∧ s.stored? (view place) = some entry ∧
      view' = Function.update view place (some entry) := by
  simp only [apply, Option.bind_eq_bind, Option.bind_eq_some_iff, Option.pure_def,
    Option.some.injEq, eq_comm (a := Function.update _ _ _), exists_and_left]

theorem stored?_directory {old : Option FileEntry} {entry : FileEntry} :
    (directory place).stored? old = some entry
      ↔ entry = .directory ∧ (old = none ∨ old = some .directory) := by
  cases old with
  | none => simp [stored?, eq_comm]
  | some old => cases old <;> simp [stored?, eq_comm]

theorem stored?_file {content : ByteArray} {old : Option FileEntry} {entry : FileEntry} :
    (file place content).stored? old = some entry
      ↔ entry = .file content ∧ old ≠ some .directory := by
  cases old with
  | none => simp [stored?, eq_comm]
  | some old => cases old <;> simp [stored?, eq_comm]

theorem stored?_self {old entry : Option FileEntry} {new : FileEntry}
    (h : s.stored? old = some new) (same : entry = some new) : s.stored? entry = some new := by
  subst same
  unfold stored? at h ⊢
  split at h <;> cases h <;> rfl

theorem apply_self (h : s.apply view = some view') : s.apply view' = some view' := by
  obtain ⟨place, entry, there, wanted, rfl⟩ := apply_eq_some.mp h
  refine apply_eq_some.mpr ⟨place, entry, there, ?_, ?_⟩
  · exact stored?_self wanted (Function.update_self ..)
  · rw [Function.update_idem]

theorem directory_of_apply (h : (directory place).apply view = some view') :
    view' place = some .directory := by
  obtain ⟨other, entry, there, wanted, rfl⟩ := apply_eq_some.mp h
  cases there
  rw [Function.update_self, (stored?_directory.mp wanted).1]

theorem apply_other (h : s.apply view = some view') (apart : s.place? ≠ some place) :
    view' place = view place := by
  obtain ⟨other, entry, there, _, rfl⟩ := apply_eq_some.mp h
  have distinct : place ≠ other := by
    rintro rfl
    exact apart there
  exact Function.update_of_ne distinct _ _

/-- Steps that agree can be taken in either order. -/
theorem apply_comm (agree : s.Agrees t) (first : s.apply view = some view₁)
    (second : t.apply view = some view₂) :
    ∃ view', t.apply view₁ = some view' ∧ s.apply view₂ = some view' := by
  obtain ⟨p, a, atP, wantsA, rfl⟩ := apply_eq_some.mp first
  obtain ⟨q, b, atQ, wantsB, rfl⟩ := apply_eq_some.mp second
  by_cases same : p = q
  · subst same
    obtain rfl := agree p atP atQ
    obtain ⟨⟩ := wantsA.symm.trans wantsB
    exact ⟨_, apply_self first, apply_self first⟩
  · refine ⟨Function.update (Function.update view p (some a)) q (some b), ?_, ?_⟩
    · refine apply_eq_some.mpr ⟨q, b, atQ, ?_, rfl⟩
      rwa [Function.update_of_ne (Ne.symm same)]
    · refine apply_eq_some.mpr ⟨p, a, atP, ?_, Function.update_comm same _ _ _⟩
      rwa [Function.update_of_ne same]

theorem apply_eq_none (agree : s.Agrees t) (first : s.apply view = some view₁)
    (stopped : t.apply view = none) : t.apply view₁ = none := by
  by_contra taken
  obtain ⟨view', second⟩ := Option.ne_none_iff_exists'.mp taken
  obtain ⟨q, b, atQ, wantsB, -⟩ := apply_eq_some.mp second
  by_cases same : s.place? = some q
  · obtain rfl := agree q same atQ
    cases stopped.symm.trans first
  · rw [apply_other first same] at wantsB
    cases stopped.symm.trans (apply_eq_some.mpr ⟨q, b, atQ, wantsB, rfl⟩)

end Step

namespace Plan

/-- Take the steps of a plan up to the first one that cannot be taken. Tells whether there was
    none. -/
def run : List Step → View → Bool × View
  | [], view => (true, view)
  | step :: rest, view =>
    match step.apply view with
    | some view => run rest view
    | none => (false, view)

/-- Any two steps of the plans agree. -/
def Agree (plan other : List Step) : Prop :=
  ∀ s ∈ plan, ∀ t ∈ other, s.Agrees t

variable {plan other : List Step} {s : Step} {view view' : View} {place : Place}

@[simp]
theorem run_nil : run [] view = (true, view) := rfl

theorem run_cons_some (h : s.apply view = some view') : run (s :: plan) view = run plan view' := by
  rw [run, h]

theorem run_cons_none (h : s.apply view = none) : run (s :: plan) view = (false, view) := by
  rw [run, h]

@[simp]
theorem run_refused : run (.refused :: plan) view = (false, view) := rfl

theorem run_append (plan other : List Step) (view : View) :
    run (plan ++ other) view
      = if (run plan view).1 then run other (run plan view).2 else run plan view := by
  induction plan generalizing view with
  | nil => rfl
  | cons s rest ih =>
      rw [List.cons_append]
      cases taken : s.apply view with
      | none => rw [run_cons_none taken, run_cons_none taken]; rfl
      | some view' => rw [run_cons_some taken, run_cons_some taken, ih]

theorem run_of_apply (agree : ∀ t ∈ plan, s.Agrees t) (first : s.apply view = some view') :
    s.apply (run plan view).2 = some (run plan view').2 ∧ (run plan view').1 = (run plan view).1 := by
  induction plan generalizing view view' with
  | nil => exact ⟨first, rfl⟩
  | cons t rest ih =>
      obtain ⟨next, others⟩ := List.forall_mem_cons.mp agree
      cases taken : t.apply view with
      | none =>
          rw [run_cons_none taken, run_cons_none (Step.apply_eq_none next first taken)]
          exact ⟨first, rfl⟩
      | some view₂ =>
          obtain ⟨both, behind, before⟩ := Step.apply_comm next first taken
          rw [run_cons_some taken, run_cons_some behind]
          exact ih others before

theorem run_of_apply_none (agree : ∀ t ∈ plan, s.Agrees t) (stopped : s.apply view = none) :
    s.apply (run plan view).2 = none := by
  induction plan generalizing view with
  | nil => exact stopped
  | cons t rest ih =>
      obtain ⟨next, others⟩ := List.forall_mem_cons.mp agree
      cases taken : t.apply view with
      | none => rwa [run_cons_none taken]
      | some view₂ =>
          rw [run_cons_some taken]
          exact ih others (Step.apply_eq_none next.symm taken stopped)

/-- Plans that agree can be run in either order, and each ends as it would have ended alone. -/
theorem run_comm (agree : Agree plan other) (view : View) :
    (run other (run plan view).2).2 = (run plan (run other view).2).2 ∧
      (run other (run plan view).2).1 = (run other view).1 := by
  induction other generalizing view with
  | nil => exact ⟨rfl, rfl⟩
  | cons t rest ih =>
      have alone : ∀ s ∈ plan, t.Agrees s := fun s mem => (agree s mem t (.head _)).symm
      have others : Agree plan rest := fun s memS t memT => agree s memS t (.tail _ memT)
      cases taken : t.apply view with
      | none =>
          rw [run_cons_none taken, run_cons_none (run_of_apply_none alone taken)]
          exact ⟨rfl, rfl⟩
      | some view' =>
          obtain ⟨behind, -⟩ := run_of_apply alone taken
          rw [run_cons_some taken, run_cons_some behind]
          exact ih others view'

theorem run_self (agree : Agree plan plan) (view : View) :
    run plan (run plan view).2 = run plan view := by
  induction plan generalizing view with
  | nil => rfl
  | cons s rest ih =>
      have alone : ∀ t ∈ rest, s.Agrees t := fun t mem => agree s (.head _) t (.tail _ mem)
      have others : Agree rest rest := fun s memS t memT => agree s (.tail _ memS) t (.tail _ memT)
      cases taken : s.apply view with
      | none => rw [run_cons_none taken, run_cons_none taken]
      | some view' =>
          obtain ⟨again, -⟩ := run_of_apply alone (Step.apply_self taken)
          rw [run_cons_some taken, run_cons_some again]
          exact ih others view'

/-- What stands where after plans have been run one after another. -/
def sweep (plans : List (List Step)) (view : View) : View :=
  plans.foldl (fun view plan => (run plan view).2) view

variable {plans others : List (List Step)}

/-- Each two of the plans agree. -/
def AllAgree (plans : List (List Step)) : Prop :=
  ∀ plan ∈ plans, ∀ other ∈ plans, Agree plan other

@[simp]
theorem sweep_cons : sweep (plan :: plans) view = sweep plans (run plan view).2 := rfl

@[simp]
theorem sweep_append : sweep (plans ++ others) view = sweep others (sweep plans view) :=
  List.foldl_append

theorem run_sweep_fst (agree : ∀ other ∈ plans, Agree other plan) (view : View) :
    (run plan (sweep plans view)).1 = (run plan view).1 := by
  induction plans generalizing view with
  | nil => rfl
  | cons other rest ih =>
      obtain ⟨first, others⟩ := List.forall_mem_cons.mp agree
      rw [sweep_cons, ih others]
      exact (run_comm first view).2

theorem sweep_perm (agree : AllAgree plans) (h : plans.Perm others) (view : View) :
    sweep plans view = sweep others view :=
  h.foldl_eq' (fun plan mem other mem' view => (run_comm (agree plan mem other mem') view).1) view

/-- A plan that has been run among others changes nothing when it is run again. -/
theorem run_sweep_of_mem (agree : AllAgree plans) (mem : plan ∈ plans) (view : View) :
    (run plan (sweep plans view)).2 = sweep plans view := by
  obtain ⟨above, below, rfl⟩ := List.append_of_mem mem
  have last : (above ++ plan :: below).Perm (above ++ below ++ [plan]) := by
    rw [List.append_assoc]
    exact (List.perm_append_singleton plan below).symm.append_left above
  have ended : sweep (above ++ plan :: below) view = (run plan (sweep (above ++ below) view)).2 := by
    rw [sweep_perm agree last, sweep_append]
    rfl
  rw [ended, run_self (agree plan mem plan mem)]

theorem sweep_append_of_subset (agree : AllAgree plans) (h : others ⊆ plans) (view : View) :
    sweep (plans ++ others) view = sweep plans view := by
  induction others with
  | nil => rw [List.append_nil]
  | cons other rest ih =>
      obtain ⟨mem, inner⟩ := List.cons_subset.mp h
      have absorbed : sweep (plans ++ other :: rest) view = sweep (plans ++ rest) view := by
        rw [sweep_append, sweep_cons, run_sweep_of_mem agree mem, sweep_append]
      rw [absorbed, ih inner]

/-- Neither the order of plans matters nor how often each of them is run. -/
theorem sweep_eq_of_mem_iff (agree : AllAgree plans) (h : ∀ plan, plan ∈ plans ↔ plan ∈ others)
    (view : View) : sweep plans view = sweep others view := by
  have agree' : AllAgree others := fun plan mem other mem' =>
    agree plan ((h plan).mpr mem) other ((h other).mpr mem')
  have both : AllAgree (plans ++ others) := by
    intro plan mem other mem'
    have inner (plan) (mem : plan ∈ plans ++ others) : plan ∈ plans :=
      (List.mem_append.mp mem).elim id (h plan).mpr
    exact agree plan (inner plan mem) other (inner other mem')
  calc sweep plans view = sweep (plans ++ others) view :=
        (sweep_append_of_subset agree (fun plan mem => (h plan).mpr mem) view).symm
    _ = sweep (others ++ plans) view := sweep_perm both List.perm_append_comm view
    _ = sweep others view :=
        sweep_append_of_subset agree' (fun plan mem => (h plan).mp mem) view

/-- What a run changes: where nothing was there can be a directory, and where no directory was
    there can be a file. -/
inductive Change (plan : List Step) (place : Place) : Option FileEntry → Option FileEntry → Prop
  | same (entry : Option FileEntry) : Change plan place entry entry
  | created (mem : .directory place ∈ plan) : Change plan place none (some .directory)
  | written {entry : Option FileEntry} {content : ByteArray} (mem : .file place content ∈ plan)
      (free : entry ≠ some .directory) : Change plan place entry (some (.file content))

theorem Change.mono {before after : Option FileEntry} (h : Change plan place before after)
    (sub : plan ⊆ other) : Change other place before after := by
  cases h with
  | same => exact .same _
  | created mem => exact .created (sub mem)
  | written mem free => exact .written (sub mem) free

theorem Change.of_apply (h : s.apply view = some view') :
    Change (s :: plan) place (view place) (view' place) := by
  by_cases there : s.place? = some place
  · obtain ⟨_, entry, at', wanted, rfl⟩ := Step.apply_eq_some.mp h
    obtain ⟨⟩ := at'.symm.trans there
    rw [Function.update_self]
    generalize view place = old at wanted
    unfold Step.stored? at wanted
    split at wanted <;> cases wanted <;> cases there
    · exact .created (.head _)
    · exact .same _
    · exact .written (.head _) nofun
    · exact .written (.head _) nofun
  · rw [Step.apply_other h there]
    exact .same _

theorem Change.trans {before between after : Option FileEntry}
    (first : Change plan place before between) (second : Change plan place between after) :
    Change plan place before after := by
  cases second with
  | same => exact first
  | created mem =>
      cases first with
      | same => exact .created mem
  | written mem free =>
      cases first with
      | same => exact .written mem free
      | created => exact absurd rfl free
      | written _ free' => exact .written mem free'

theorem Change.of_directory {after : Option FileEntry}
    (h : Change plan place (some .directory) after) : after = some .directory := by
  cases h with
  | same => rfl
  | written _ free => exact absurd rfl free

theorem Change.of_file {content : ByteArray} {after : Option FileEntry}
    (h : Change plan place (some (.file content)) after) :
    ∃ content, after = some (.file content) := by
  cases h with
  | same => exact ⟨_, rfl⟩
  | written => exact ⟨_, rfl⟩

theorem Change.file_iff {before after : Option FileEntry} (h : Change plan place before after)
    (free : ∀ content, .file place content ∉ plan) (content : ByteArray) :
    after = some (.file content) ↔ before = some (.file content) := by
  cases h with
  | same => rfl
  | created => simp
  | written mem => exact absurd mem (free _)

theorem run_change (plan : List Step) (view : View) (place : Place) :
    Change plan place (view place) ((run plan view).2 place) := by
  induction plan generalizing view with
  | nil => exact .same _
  | cons s rest ih =>
      cases taken : s.apply view with
      | none =>
          rw [run_cons_none taken]
          exact .same _
      | some view' =>
          rw [run_cons_some taken]
          exact (Change.of_apply taken).trans ((ih view').mono (List.subset_cons_self s rest))

theorem sweep_change (plans : List (List Step)) (view : View) (place : Place) :
    Change plans.flatten place (view place) (sweep plans view place) := by
  induction plans generalizing view with
  | nil => exact .same _
  | cons plan rest ih =>
      rw [sweep_cons, List.flatten_cons]
      have first := (run_change plan view place).mono (List.subset_append_left plan rest.flatten)
      exact first.trans ((ih _).mono (List.subset_append_right plan rest.flatten))

end Plan

end ClientGen
