import ClientGen.Target.Layout
import Mathlib.Data.List.Basic

/-! # Directories of a layout

The directories of a layout are the real ones among those named in it: each once, and in the order in
which they are first named. The further directories of a layout are kept once each before that, which
makes no difference: to name one more directory adds it at the end or changes nothing, whatever has
been named before.
-/

namespace ClientGen.Layout

variable {layout : Layout} {dir other : String} {dirs named : List String}

theorem insertLast_of_mem (mem : dir ∈ dirs) : insertLast dirs dir = dirs :=
  if_pos (List.contains_iff_mem.mpr mem)

theorem insertLast_of_not_mem (absent : dir ∉ dirs) : insertLast dirs dir = dirs ++ [dir] :=
  if_neg (mt List.contains_iff_mem.mp absent)

theorem isRoot_iff : isRoot dir = true ↔ dir = "" ∨ dir = "." := by
  rw [isRoot, Bool.or_eq_true, decide_eq_true_eq, decide_eq_true_eq]

/-- The directories after one more has been named. -/
def mention (dirs : List String) (dir : String) : List String :=
  if isRoot dir then dirs else insertLast dirs dir

theorem mention_eq (dirs : List String) (dir : String) :
    mention dirs dir = if dir = "" ∨ dir = "." ∨ dir ∈ dirs then dirs else dirs ++ [dir] := by
  simp only [← or_assoc, ← isRoot_iff, mention]
  by_cases root : isRoot dir = true
  · rw [if_pos root, if_pos (.inl root)]
  · rw [if_neg root]
    by_cases mem : dir ∈ dirs
    · rw [insertLast_of_mem mem, if_pos (.inr mem)]
    · rw [insertLast_of_not_mem mem, if_neg (not_or.mpr ⟨root, mem⟩)]

theorem mem_mention :
    other ∈ mention dirs dir ↔ other ∈ dirs ∨ other = dir ∧ isRoot dir = false := by
  rw [mention]
  cases isRoot dir with
  | true => simp
  | false =>
      by_cases mem : dir ∈ dirs
      · simp only [Bool.false_eq_true, if_false, insertLast_of_mem mem, and_true]
        exact (or_iff_left_of_imp fun same => same ▸ mem).symm
      · simp [insertLast_of_not_mem mem]

/-- The real directories among those that are named, in the order in which they are first named. -/
structure FirstNamed (named dirs : List String) : Prop where
  mem_iff (dir : String) : dir ∈ dirs ↔ dir ∈ named ∧ isRoot dir = false
  ordered : dirs.Pairwise fun a b => named.idxOf a < named.idxOf b

namespace FirstNamed

theorem nil : FirstNamed [] [] where
  mem_iff := by simp
  ordered := .nil

theorem nodup (h : FirstNamed named dirs) : dirs.Nodup :=
  h.ordered.imp fun before => by
    rintro rfl
    exact Nat.lt_irrefl _ before

theorem ordered_append (h : FirstNamed named dirs) (dir : String) :
    dirs.Pairwise fun a b => (named ++ [dir]).idxOf a < (named ++ [dir]).idxOf b := by
  refine h.ordered.imp_of_mem fun {a b} left right before => ?_
  rwa [List.idxOf_append_of_mem ((h.mem_iff a).mp left).1,
    List.idxOf_append_of_mem ((h.mem_iff b).mp right).1]

theorem mention (h : FirstNamed named dirs) (dir : String) :
    FirstNamed (named ++ [dir]) (Layout.mention dirs dir) where
  mem_iff other := by
    rw [mem_mention, h.mem_iff, List.mem_append, List.mem_singleton, or_and_right]
    refine or_congr_right (and_congr_right ?_)
    rintro rfl
    rfl
  ordered := by
    rw [mention_eq]
    split
    · exact h.ordered_append dir
    · rename_i real
      rw [← or_assoc, ← isRoot_iff, not_or, Bool.not_eq_true] at real
      have fresh : dir ∉ named := fun there => real.2 ((h.mem_iff dir).mpr ⟨there, real.1⟩)
      refine List.pairwise_append.mpr
        ⟨h.ordered_append dir, List.pairwise_singleton _ _, fun a left b last => ?_⟩
      have there := ((h.mem_iff a).mp left).1
      rw [List.mem_singleton.mp last, List.idxOf_append_of_mem there,
        List.idxOf_append_of_notMem fresh]
      exact Nat.lt_add_right _ (List.idxOf_lt_length_of_mem there)

theorem foldl (h : FirstNamed named dirs) (more : List String) :
    FirstNamed (named ++ more) (more.foldl Layout.mention dirs) := by
  induction more generalizing named dirs with
  | nil => rwa [List.append_nil]
  | cons dir more ih =>
      rw [List.foldl_cons, ← List.singleton_append, ← List.append_assoc]
      exact ih (h.mention dir)

end FirstNamed

theorem directories_eq (layout : Layout) :
    layout.directories
      = (layout.clientDir :: layout.typesDir :: layout.extraDirs).foldl mention [] := by
  rw [directories, List.foldl_filter]
  congr 1
  funext dirs dir
  rw [mention]
  cases isRoot dir <;> rfl

theorem firstNamed_directories (layout : Layout) :
    FirstNamed (layout.clientDir :: layout.typesDir :: layout.extraDirs) layout.directories := by
  rw [directories_eq]
  exact FirstNamed.nil.foldl _

theorem directories_withExtraDir (layout : Layout) (dir : String) :
    (layout.withExtraDir dir).directories = mention layout.directories dir := by
  by_cases mem : dir ∈ layout.extraDirs
  · have kept : layout.withExtraDir dir = layout := by
      rw [withExtraDir, insertLast_of_mem mem]
    rw [kept, mention]
    split
    · rfl
    · rename_i real
      refine (insertLast_of_mem ((layout.firstNamed_directories.mem_iff dir).mpr ?_)).symm
      exact ⟨.tail _ (.tail _ mem), Bool.eq_false_iff.mpr real⟩
  · rw [directories_eq, directories_eq, withExtraDir, insertLast_of_not_mem mem,
      ← List.cons_append, ← List.cons_append, List.foldl_append]
    rfl

/-- A layout to which further directories are added one after another. -/
def ofDirs (clientDir typesDir : String) (extra : List String) : Layout :=
  extra.foldl withExtraDir { clientDir, typesDir }

/-- It does not show that further directories are kept once each. -/
theorem directories_ofDirs (clientDir typesDir : String) (extra : List String) :
    (ofDirs clientDir typesDir extra).directories
      = (clientDir :: typesDir :: extra).foldl mention [] := by
  have added (layout : Layout) :
      (extra.foldl withExtraDir layout).directories = extra.foldl mention layout.directories := by
    induction extra generalizing layout with
    | nil => rfl
    | cons dir extra ih => rw [List.foldl_cons, ih, directories_withExtraDir, List.foldl_cons]
  rw [ofDirs, added, directories_eq]
  rfl

/-- The directories are the real ones that are named, each once, in the order in which they are first
    named as that of the client, of the types or a further one. To add one more leaves them as they
    are, or puts it at their end. -/
theorem directories_in_order_of_mention (clientDir typesDir : String) (extra : List String) :
    (ofDirs clientDir typesDir extra).directories.Nodup ∧
    (∀ dir, dir ∈ (ofDirs clientDir typesDir extra).directories ↔
      dir ∈ clientDir :: typesDir :: extra ∧ dir ≠ "" ∧ dir ≠ ".") ∧
    ((ofDirs clientDir typesDir extra).directories.Pairwise fun a b =>
      (clientDir :: typesDir :: extra).idxOf a < (clientDir :: typesDir :: extra).idxOf b) ∧
    ∀ dir, ((ofDirs clientDir typesDir extra).withExtraDir dir).directories =
      if dir = "" ∨ dir = "." ∨ dir ∈ (ofDirs clientDir typesDir extra).directories then
        (ofDirs clientDir typesDir extra).directories
      else (ofDirs clientDir typesDir extra).directories ++ [dir] := by
  have first : FirstNamed (clientDir :: typesDir :: extra)
      (ofDirs clientDir typesDir extra).directories := by
    rw [directories_ofDirs]
    exact FirstNamed.nil.foldl _
  refine ⟨first.nodup, fun dir => ?_, first.ordered, fun dir => ?_⟩
  · rw [first.mem_iff, ← not_or, ← isRoot_iff, Bool.not_eq_true]
  · rw [directories_withExtraDir, mention_eq]

/-- Directories that are named again, and the root, between two others. -/
example : (ofDirs "lib" "." ["lib/src", "lib", "", "bin", "lib/src"]).directories
    = ["lib", "lib/src", "bin"] := by decide

end ClientGen.Layout
