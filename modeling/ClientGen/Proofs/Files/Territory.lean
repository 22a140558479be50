import ClientGen.Proofs.Files.Plan
import Mathlib.Data.List.Pairwise

/-! # Territories

Several plans may go one way of directories first and then each into a territory of its own. A plan
that wants a file on the way cannot be carried out to the end, and is cut off where it would fail.
What is left of such plans agrees.
-/

namespace ClientGen

namespace Step

variable {s t : Step} {view view' : View}

/-- Something of the kind that the step wants stands at its place. -/
def Stays (view : View) : Step → Prop
  | directory place => view place = some .directory
  | file place _ => ∃ content, view place = some (.file content)
  | refused => True

theorem stays_of_apply (h : s.apply view = some view') : s.Stays view' := by
  obtain ⟨place, entry, there, wanted, rfl⟩ := apply_eq_some.mp h
  cases s with
  | directory place =>
      cases there
      rw [Stays, Function.update_self, (stored?_directory.mp wanted).1]
  | file place content =>
      cases there
      exact ⟨content, by rw [Function.update_self, (stored?_file.mp wanted).1]⟩
  | refused => cases there

theorem Stays.mono {plan : List Step} (h : s.Stays view)
    (change : ∀ place, Plan.Change plan place (view place) (view' place)) : s.Stays view' := by
  cases s with
  | directory place =>
      have change := change place
      rw [show view place = _ from h] at change
      exact change.of_directory
  | file place content =>
      obtain ⟨old, there⟩ := h
      have change := change place
      rw [there] at change
      exact change.of_file
  | refused => trivial

theorem clashes_comm (s t : Step) : s.clashes t = t.clashes s := by
  cases s <;> cases t <;> simp [clashes, eq_comm]

theorem clashes_self (s : Step) : s.clashes s = false := by
  cases s <;> rfl

/-- Steps agree unless they want a directory and a file at one place, or two contents of a file. -/
theorem agrees_of_clear
    (clear : ∀ place content, ¬(s = file place content ∧ t = directory place ∨
      s = directory place ∧ t = file place content))
    (single : ∀ place content other, s = file place content → t = file place other →
      content = other) : s.Agrees t := by
  intro place here there
  cases s with
  | refused => cases here
  | directory p =>
      obtain rfl := Option.some.inj here
      cases t with
      | refused => cases there
      | directory q => rw [Option.some.inj there]
      | file q content =>
          obtain rfl := Option.some.inj there
          exact absurd (.inr ⟨rfl, rfl⟩) (clear q content)
  | file p content =>
      obtain rfl := Option.some.inj here
      cases t with
      | refused => cases there
      | directory q =>
          obtain rfl := Option.some.inj there
          exact absurd (.inl ⟨rfl, rfl⟩) (clear q content)
      | file q other =>
          obtain rfl := Option.some.inj there
          rw [single q content other rfl rfl]

theorem apply_eq_none_of_clashes (h : t.Stays view) (clash : s.clashes t = true) :
    s.apply view = none := by
  cases s with
  | directory place =>
      cases t with
      | file other content =>
          obtain rfl : place = other := by simpa [clashes] using clash
          obtain ⟨old, there⟩ := h
          simp [apply, place?, there, stored?]
      | _ => cases clash
  | file place content =>
      cases t with
      | directory other =>
          obtain rfl : place = other := by simpa [clashes] using clash
          simp [apply, place?, show view place = _ from h, stored?]
      | _ => cases clash
  | refused => rfl

end Step

namespace Plan

variable {plan other way seen rest : List Step} {s t : Step} {view : View} {place : Place}
  {content : ByteArray} {territory territory' : Place → Prop}

/-- A plan up to the first step that cannot be taken behind those seen before it. -/
def settle (seen : List Step) : List Step → List Step
  | [] => []
  | step :: rest =>
    if seen.any step.clashes || step = .refused then [.refused]
    else step :: settle (step :: seen) rest

theorem run_settle (stay : ∀ s ∈ seen, s.Stays view) :
    run (settle seen plan) view = run plan view := by
  induction plan generalizing seen view with
  | nil => rfl
  | cons step rest ih =>
      rw [settle]
      cases taken : step.apply view with
      | none =>
          rw [run_cons_none taken]
          split
          · rfl
          · exact run_cons_none taken
      | some next =>
          rw [if_neg, run_cons_some taken, run_cons_some taken, ih]
          · intro s mem
            cases mem with
            | head => exact Step.stays_of_apply taken
            | tail _ mem =>
                have change (place : Place) :
                    Change [step] place (view place) (next place) := Change.of_apply taken
                exact (stay s mem).mono change
          · simp only [Bool.or_eq_true, List.any_eq_true, decide_eq_true_eq, not_or, not_exists,
              not_and]
            refine ⟨fun t mem clash => ?_, ?_⟩
            · cases taken.symm.trans (Step.apply_eq_none_of_clashes (stay t mem) clash)
            · rintro rfl
              cases taken

theorem mem_settle (h : s ∈ settle seen plan) :
    s = .refused ∨ s ∈ plan ∧ ∀ t ∈ seen, s.clashes t = false := by
  induction plan generalizing seen with
  | nil => cases h
  | cons step rest ih =>
      rw [settle] at h
      split at h
      · exact .inl (List.mem_singleton.mp h)
      · rename_i fits
        cases h with
        | head =>
            simp only [Bool.or_eq_true, List.any_eq_true, not_or, not_exists, not_and,
              Bool.not_eq_true] at fits
            exact .inr ⟨.head _, fits.1⟩
        | tail _ h =>
            refine (ih h).imp_right fun ⟨mem, free⟩ => ⟨.tail _ mem, fun t later => ?_⟩
            exact free t (.tail _ later)

theorem settle_pairwise (seen plan : List Step) :
    (settle seen plan).Pairwise fun s t => s.clashes t = false := by
  induction plan generalizing seen with
  | nil => exact .nil
  | cons step rest ih =>
      rw [settle]
      split
      · exact List.pairwise_singleton _ _
      · refine List.pairwise_cons.mpr ⟨fun t mem => ?_, ih _⟩
        rcases mem_settle mem with rfl | ⟨-, free⟩
        · cases step <;> rfl
        · rw [Step.clashes_comm]
          exact free step (.head _)

theorem mem_settle_append (h : s ∈ settle seen (way ++ rest)) :
    s = .refused ∨ s ∈ way ∨ ∀ t ∈ way, s.clashes t = false := by
  induction way generalizing seen with
  | nil => exact .inr (.inr fun _ mem => absurd mem List.not_mem_nil)
  | cons step way ih =>
      rw [List.cons_append, settle] at h
      split at h
      · exact .inl (List.mem_singleton.mp h)
      · cases h with
        | head => exact .inr (.inl (.head _))
        | tail _ h =>
            rcases ih h with stopped | mem | free
            · exact .inl stopped
            · exact .inr (.inl (.tail _ mem))
            · refine (mem_settle h).imp_right fun ⟨_, later⟩ => .inr fun t mem => ?_
              cases mem with
              | head => exact later step (.head _)
              | tail _ mem => exact free t mem

theorem stays_of_run (done : (run plan view).1 = true) (mem : s ∈ plan) :
    s.Stays (run plan view).2 := by
  induction plan generalizing view with
  | nil => cases mem
  | cons step rest ih =>
      cases taken : step.apply view with
      | none =>
          rw [run_cons_none taken] at done
          cases done
      | some next =>
          rw [run_cons_some taken] at done ⊢
          cases mem with
          | head => exact (Step.stays_of_apply taken).mono (run_change rest next)
          | tail _ mem => exact ih done mem

/-- A plan that goes a way first, unless it cannot be started. Its other directories and its files
    are in its territory, and it wants one content for each file. -/
structure Within (way : List Step) (territory : Place → Prop) (plan : List Step) : Prop where
  first : plan.head? = some .refused ∨ way <+: plan
  directory {place : Place} (mem : .directory place ∈ plan) :
    .directory place ∈ way ∨ territory place
  file {place : Place} {content : ByteArray} (mem : .file place content ∈ plan) : territory place
  single {place : Place} {content other : ByteArray} (mem : .file place content ∈ plan)
    (mem' : .file place other ∈ plan) : content = other

theorem mem_of_mem_settle (h : s ∈ settle seen plan) (taken : s ≠ .refused) : s ∈ plan :=
  ((mem_settle h).resolve_left taken).1

theorem Within.not_mem_way (h : Within way territory plan)
    (noFiles : ∀ place content, .file place content ∉ way)
    (mem : .file place content ∈ settle [] plan) : .directory place ∉ way := by
  intro blocked
  rcases h.first with stopped | ⟨rest, rfl⟩
  · obtain ⟨rest, rfl⟩ := List.head?_eq_some_iff.mp stopped
    cases List.mem_singleton.mp mem
  · rcases mem_settle_append mem with stopped | inside | free
    · cases stopped
    · exact noFiles place content inside
    · have clash : (Step.file place content).clashes (.directory place) = true := by
        simp [Step.clashes]
      cases clash.symm.trans (free _ blocked)

theorem Within.not_mem_settle (h : Within way territory plan) (h' : Within way territory' other)
    (noFiles : ∀ place content, .file place content ∉ way)
    (apart : ∀ place, territory place → ¬territory' place)
    (mem : .file place content ∈ settle [] plan) : .directory place ∉ settle [] other := by
  intro mem'
  rcases h'.directory (mem_of_mem_settle mem' (by simp)) with outer | inner
  · exact h.not_mem_way noFiles mem outer
  · exact apart place (h.file (mem_of_mem_settle mem (by simp))) inner

/-- What is left of two plans agrees if their territories are apart. -/
theorem Within.agree (h : Within way territory plan) (h' : Within way territory' other)
    (noFiles : ∀ place content, .file place content ∉ way)
    (apart : ∀ place, territory place → ¬territory' place) :
    Agree (settle [] plan) (settle [] other) := by
  intro s mem t mem'
  refine Step.agrees_of_clear ?_ ?_
  · rintro place content (⟨rfl, rfl⟩ | ⟨rfl, rfl⟩)
    · exact h.not_mem_settle h' noFiles apart mem mem'
    · exact h'.not_mem_settle h noFiles (fun p inner own => apart p own inner) mem' mem
  · rintro place content content' rfl rfl
    have own := h.file (mem_of_mem_settle mem (by simp))
    exact absurd (h'.file (mem_of_mem_settle mem' (by simp))) (apart place own)

theorem Within.agree_self (h : Within way territory plan) :
    Agree (settle [] plan) (settle [] plan) := by
  have symm : Std.Symm fun s t : Step => s.clashes t = false :=
    ⟨fun s t clear => by rwa [Step.clashes_comm]⟩
  have clear := (settle_pairwise [] plan).forall_of_forall fun s _ => s.clashes_self
  intro s mem t mem'
  refine Step.agrees_of_clear ?_ ?_
  · rintro place content (⟨rfl, rfl⟩ | ⟨rfl, rfl⟩)
    · simpa [Step.clashes] using clear mem mem'
    · simpa [Step.clashes] using clear mem mem'
  · rintro place content content' rfl rfl
    exact h.single (mem_of_mem_settle mem (by simp)) (mem_of_mem_settle mem' (by simp))

/-- Plans by name that go one way, each within a territory of its own. -/
structure Neighbours (way : List Step) (plan : String → List Step)
    (territory : String → Place → Prop) : Prop where
  noFiles : ∀ place content, .file place content ∉ way
  within (name : String) : Within way (territory name) (plan name)
  apart {name other : String} {place : Place} (distinct : name ≠ other)
    (own : territory name place) : ¬territory other place

namespace Neighbours

variable {plans : String → List Step} {territories : String → Place → Prop} {name : String}
  {names : List String}

/-- The plans without what cannot be carried out. -/
def settled (plans : String → List Step) (names : List String) : List (List Step) :=
  names.map fun name => settle [] (plans name)

theorem run_settled (plans : String → List Step) (name : String) (view : View) :
    run (settle [] (plans name)) view = run (plans name) view :=
  run_settle fun _ mem => absurd mem List.not_mem_nil

theorem sweep_settled (plans : String → List Step) (names : List String) (view : View) :
    sweep (settled plans names) view = sweep (names.map plans) view := by
  induction names generalizing view with
  | nil => rfl
  | cons name rest ih =>
      rw [List.map_cons, sweep_cons, ← ih, ← run_settled]
      rfl

theorem agree (h : Neighbours way plans territories) (name other : String) :
    Agree (settle [] (plans name)) (settle [] (plans other)) := by
  by_cases same : name = other
  · subst same
    exact (h.within name).agree_self
  · exact (h.within name).agree (h.within other) h.noFiles fun _ => h.apart same

theorem allAgree (h : Neighbours way plans territories) (names : List String) :
    AllAgree (settled plans names) := by
  intro plan mem other mem'
  obtain ⟨name, -, rfl⟩ := List.mem_map.mp mem
  obtain ⟨name', -, rfl⟩ := List.mem_map.mp mem'
  exact h.agree name name'

theorem run_sweep_fst (h : Neighbours way plans territories) (name : String)
    (names : List String) (view : View) :
    (run (plans name) (sweep (names.map plans) view)).1 = (run (plans name) view).1 := by
  rw [← run_settled, ← sweep_settled, ← run_settled]
  refine Plan.run_sweep_fst (fun other mem => ?_) view
  obtain ⟨name', -, rfl⟩ := List.mem_map.mp mem
  exact h.agree name' name

theorem sweep_eq_of_mem_iff (h : Neighbours way plans territories) {others : List String}
    (same : ∀ name, name ∈ names ↔ name ∈ others) (view : View) :
    sweep (names.map plans) view = sweep (others.map plans) view := by
  rw [← sweep_settled, ← sweep_settled]
  refine Plan.sweep_eq_of_mem_iff (h.allAgree names) (fun plan => ?_) view
  simp only [settled, List.mem_map, same]

theorem sweep_again (h : Neighbours way plans territories) (names : List String) (view : View) :
    sweep (names.map plans) (sweep (names.map plans) view) = sweep (names.map plans) view := by
  rw [← sweep_append, ← List.map_append]
  exact h.sweep_eq_of_mem_iff (fun name => by simp) view

/-- Any plan can be carried out before the others. -/
theorem exists_sweep_behind (h : Neighbours way plans territories) (mem : name ∈ names)
    (view : View) :
    ∃ others : List String, name ∉ others ∧
      sweep (names.map plans) view = sweep (others.map plans) (run (plans name) view).2 := by
  refine ⟨names.filter (· ≠ name), by simp, ?_⟩
  show _ = sweep ((name :: names.filter (· ≠ name)).map plans) view
  refine h.sweep_eq_of_mem_iff (fun other => ?_) view
  by_cases same : other = name
  · simp [same, mem]
  · simp [same]

/-- If a plan leaves nothing where another one has a directory in its territory, it was stopped. -/
theorem stopped_of_mem {other : String} (h : Neighbours way plans territories)
    (distinct : name ≠ other) (own : territories name place)
    (mem : .directory place ∈ plans other) (missing : (run (plans name) view).2 place = none) :
    (run (plans name) view).1 = false := by
  by_contra done
  rw [Bool.not_eq_false] at done
  rcases (h.within other).directory mem with outer | inner
  · rcases (h.within name).first with stopped | started
    · obtain ⟨rest, same⟩ := List.head?_eq_some_iff.mp stopped
      simp [same] at done
    · have there : (run (plans name) view).2 place = some .directory :=
        stays_of_run done (started.subset outer)
      cases there.symm.trans missing
  · exact h.apart distinct own inner

/-- In the territory of a plan, the others leave everything as it was left by that plan alone. Only
    if it was stopped, the others may have created directories on their way there. -/
theorem sweep_eq (h : Neighbours way plans territories) (mem : name ∈ names)
    (own : territories name place) (view : View) :
    let alone := run (plans name) view
    let after := sweep (names.map plans) view
    after place = alone.2 place ∨
      alone.1 = false ∧ alone.2 place = none ∧ after place = some .directory := by
  intro alone after
  obtain ⟨others, foreign, behind⟩ := h.exists_sweep_behind mem view
  have source {s : Step} (mem : s ∈ (others.map plans).flatten) :
      ∃ other, name ≠ other ∧ s ∈ plans other := by
    obtain ⟨plan, listed, mem⟩ := List.mem_flatten.mp mem
    obtain ⟨other, among, rfl⟩ := List.mem_map.mp listed
    exact ⟨other, fun same => foreign (same ▸ among), mem⟩
  have changed : Change (others.map plans).flatten place (alone.2 place) (after place) := by
    rw [show after place = _ from congrFun behind place]
    exact sweep_change (others.map plans) alone.2 place
  generalize after place = final at changed ⊢
  generalize before : alone.2 place = entry at changed ⊢
  cases changed with
  | same => exact .inl rfl
  | created mem =>
      obtain ⟨other, distinct, mem⟩ := source mem
      exact .inr ⟨h.stopped_of_mem distinct own mem before, rfl, rfl⟩
  | written mem =>
      obtain ⟨other, distinct, mem⟩ := source mem
      exact absurd ((h.within other).file mem) (h.apart distinct own)

end Neighbours

end Plan

end ClientGen
