import Mathlib.Data.List.Basic
import Mathlib.Data.String.Basic

/-! # Lookups

Entries by key are put in their places in several lists, sorted ones and others. However it is done,
the key then has the new value, and no other key notices. Lists that are sorted by key stay sorted.
-/

namespace ClientGen

variable {α β : Type} [BEq α] [LawfulBEq α] [DecidableEq α] {key : α} {value : β}
  {before after : List (α × β)}

theorem lookup_cons_eq (key : α) (entry : α × β) (rest : List (α × β)) :
    (entry :: rest).lookup key = if key = entry.1 then some entry.2 else rest.lookup key := by
  obtain ⟨other, value⟩ := entry
  by_cases same : key = other
  · simp [same]
  · rw [List.lookup_cons, beq_false_of_ne same, if_neg same]

/-- One list is the other with an entry in front of the first one of its key, or in its place. -/
inductive Inserts (key : α) (value : β) : List (α × β) → List (α × β) → Prop
  | front (rest : List (α × β)) : Inserts key value rest ((key, value) :: rest)
  | replace (old : β) (rest : List (α × β)) :
      Inserts key value ((key, old) :: rest) ((key, value) :: rest)
  | behind {other : α} (old : β) {rest rest' : List (α × β)} (distinct : key ≠ other)
      (inner : Inserts key value rest rest') :
      Inserts key value ((other, old) :: rest) ((other, old) :: rest')

theorem Inserts.lookup_eq (h : Inserts key value before after) (other : α) :
    after.lookup other = if other = key then some value else before.lookup other := by
  induction h with
  | front rest => exact lookup_cons_eq other (key, value) rest
  | replace old rest =>
      rw [lookup_cons_eq, lookup_cons_eq]
      split <;> rfl
  | behind old distinct _ ih =>
      rw [lookup_cons_eq, lookup_cons_eq, ih]
      split
      · rename_i same
        subst same
        rw [if_neg distinct.symm]
      · rfl

omit [BEq α] [LawfulBEq α] [DecidableEq α] in
theorem Inserts.mem_keys_iff (h : Inserts key value before after) {other : α} :
    other ∈ after.map (·.1) ↔ other = key ∨ other ∈ before.map (·.1) := by
  induction h with
  | front rest => exact List.mem_cons
  | replace old rest => simp
  | behind old _ _ ih =>
      rw [List.map_cons, List.map_cons, List.mem_cons, List.mem_cons, ih]
      exact or_left_comm

/-- Of several entries with one key the last counts. -/
theorem lookup_foldl_insert {insert : α → β → List (α × β) → List (α × β)}
    (inserts : ∀ key value entries, Inserts key value entries (insert key value entries))
    (entries start : List (α × β)) (key : α) :
    (entries.foldl (fun placed entry => insert entry.1 entry.2 placed) start).lookup key
      = (entries.reverse.lookup key).or (start.lookup key) := by
  induction entries generalizing start with
  | nil => rfl
  | cons entry rest ih =>
      rw [List.foldl_cons, ih, (inserts _ _ _).lookup_eq, List.reverse_cons, List.lookup_append,
        Option.or_assoc, lookup_cons_eq]
      split <;> rfl

omit [DecidableEq α] in
theorem mem_of_lookup {entries : List (α × β)} (found : entries.lookup key = some value) :
    (key, value) ∈ entries := by
  obtain ⟨before, behind, rfl, -⟩ := List.lookup_eq_some_iff.mp found
  exact List.mem_append_right _ List.mem_cons_self

omit [DecidableEq α] in
theorem lookup_eq_none {entries : List (α × β)} (absent : key ∉ entries.map (·.1)) :
    entries.lookup key = none := by
  refine List.lookup_eq_none_iff.mpr fun entry mem => bne_iff_ne.mpr ?_
  rintro rfl
  exact absent (List.mem_map_of_mem mem)

omit [DecidableEq α] in
theorem mem_keys_iff {entries : List (α × β)} :
    key ∈ entries.map (·.1) ↔ ∃ value, entries.lookup key = some value := by
  rw [← Option.isSome_iff_exists, List.lookup_isSome_iff, List.mem_map]
  simp only [beq_iff_eq, eq_comm (a := key)]

omit [DecidableEq α] in
theorem lookup_reverse_eq_some_iff {entries : List (α × β)} :
    entries.reverse.lookup key = some value ↔
      ∃ before behind, entries = before ++ (key, value) :: behind ∧ key ∉ behind.map (·.1) := by
  rw [List.lookup_eq_some_iff]
  constructor
  · rintro ⟨behind, before, split, others⟩
    refine ⟨before.reverse, behind.reverse, ?_, fun mem => ?_⟩
    · rw [List.reverse_eq_iff.mp split]
      simp
    · rw [List.map_reverse, List.mem_reverse] at mem
      obtain ⟨entry, found, same⟩ := List.mem_map.mp mem
      simpa [same] using others entry found
  · rintro ⟨before, behind, rfl, others⟩
    refine ⟨behind.reverse, before.reverse, by simp, fun entry mem => ?_⟩
    simp only [bne_iff_ne]
    rintro rfl
    exact others (List.mem_map_of_mem (List.mem_reverse.mp mem))

section Sorted

variable {β : Type} {put : String → β → List (String × β) → List (String × β)}

/-- To put an entry in its place is to go past all smaller keys. -/
structure PutsInOrder (put : String → β → List (String × β) → List (String × β)) : Prop where
  last (key : String) (value : β) : put key value [] = [(key, value)]
  front {key other : String} (value old : β) (rest : List (String × β)) (smaller : key < other) :
    put key value ((other, old) :: rest) = (key, value) :: (other, old) :: rest
  replace (key : String) (value old : β) (rest : List (String × β)) :
    put key value ((key, old) :: rest) = (key, value) :: rest
  behind {key other : String} (value old : β) (rest : List (String × β)) (greater : other < key) :
    put key value ((other, old) :: rest) = (other, old) :: put key value rest

namespace PutsInOrder

theorem inserts (h : PutsInOrder put) (key : String) (value : β) (entries : List (String × β)) :
    Inserts key value entries (put key value entries) := by
  induction entries with
  | nil =>
      rw [h.last]
      exact .front []
  | cons entry rest ih =>
      obtain ⟨other, old⟩ := entry
      obtain smaller | rfl | greater := lt_trichotomy key other
      · rw [h.front value old rest smaller]
        exact .front _
      · rw [h.replace]
        exact .replace old rest
      · rw [h.behind value old rest greater]
        exact .behind old greater.ne' ih

theorem pairwise (h : PutsInOrder put) (key : String) (value : β)
    {entries : List (String × β)} (sorted : entries.Pairwise fun a b => a.1 < b.1) :
    (put key value entries).Pairwise fun a b => a.1 < b.1 := by
  induction entries with
  | nil =>
      rw [h.last]
      exact List.pairwise_singleton _ _
  | cons entry rest ih =>
      obtain ⟨other, old⟩ := entry
      obtain ⟨first, later⟩ := List.pairwise_cons.mp sorted
      obtain smaller | rfl | greater := lt_trichotomy key other
      · rw [h.front value old rest smaller]
        refine List.pairwise_cons.mpr ⟨fun entry mem => ?_, sorted⟩
        cases mem with
        | head => exact smaller
        | tail _ mem => exact smaller.trans (first entry mem)
      · rw [h.replace]
        exact List.pairwise_cons.mpr ⟨first, later⟩
      · rw [h.behind value old rest greater]
        refine List.pairwise_cons.mpr ⟨fun entry mem => ?_, ih later⟩
        obtain same | mem := (h.inserts key value rest).mem_keys_iff.mp (List.mem_map_of_mem mem)
        · exact greater.trans_eq same.symm
        · obtain ⟨entry', mem, same⟩ := List.mem_map.mp mem
          exact (first entry' mem).trans_eq same

end PutsInOrder

end Sorted

end ClientGen
