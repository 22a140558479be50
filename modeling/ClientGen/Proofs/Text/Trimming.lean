import ClientGen.Text.Blank
import Mathlib.Data.List.DropRight

/-! # Trimmed texts

A text that has been trimmed does not end in what was trimmed. What comes behind another text is
trimmed with it if nothing of it is kept, and otherwise it is trimmed as it is alone.
-/

namespace ClientGen.Text

variable {p : Char → Bool} {c : Char} {cs before after : List Char} {s : String}

theorem dropEndWhile_append_of_forall (dropped : ∀ c ∈ after, p c = true) :
    dropEndWhile p (before ++ after) = dropEndWhile p before := by
  have turned : ∀ c ∈ after.reverse, p c = true := fun c mem => dropped c (List.mem_reverse.mp mem)
  rw [dropEndWhile, List.reverse_append, List.dropWhile_append_of_pos turned, dropEndWhile]

theorem dropEndWhile_append_of_exists (kept : ∃ c ∈ after, p c = false) :
    dropEndWhile p (before ++ after) = before ++ dropEndWhile p after := by
  obtain ⟨c, mem, other⟩ := kept
  have rest : after.reverse.dropWhile p ≠ [] := by
    intro none
    have dropped := List.dropWhile_eq_nil_iff.mp none c (List.mem_reverse.mpr mem)
    rw [other] at dropped
    cases dropped
  rw [dropEndWhile, List.reverse_append, List.dropWhile_append, if_neg (by simpa using rest),
    List.reverse_append, List.reverse_reverse, dropEndWhile]

theorem not_of_getLast?_dropEndWhile
    (last : (dropEndWhile p cs).getLast? = some c) : p c = false := by
  rw [dropEndWhile, List.getLast?_reverse] at last
  have first := List.head?_dropWhile_not p cs.reverse
  rw [last] at first
  exact first

theorem getLast?_trimEnd_ne (blank : isBlank c = true) (s : String) :
    (trimEnd s).toList.getLast? ≠ some c := by
  rw [trimEnd, String.toList_ofList]
  intro last
  rw [not_of_getLast?_dropEndWhile last] at blank
  cases blank

theorem trimEnd_trimEnd (s : String) : trimEnd (trimEnd s) = trimEnd s := by
  rw [trimEnd, trimEnd, String.toList_ofList]
  exact congrArg String.ofList (List.rdropWhile_idempotent isBlank s.toList)

theorem trimEnd_eq_empty_iff : trimEnd s = "" ↔ ∀ c ∈ s.toList, isBlank c = true := by
  rw [trimEnd, String.ofList_eq_empty_iff]
  exact List.rdropWhile_eq_nil_iff

theorem trimEnd_eq_self (last : s.toList.getLast? = some c) (shown : isBlank c = false) :
    trimEnd s = s := by
  obtain ⟨front, split⟩ := List.getLast?_eq_some_iff.mp last
  have kept : dropEndWhile isBlank s.toList = s.toList := by
    rw [split]
    exact List.rdropWhile_concat_neg _ _ _ (by simp [shown])
  rw [trimEnd, kept, String.ofList_toList]

theorem feed_not_mem_trimEnd (single : '\n' ∉ s.toList) : '\n' ∉ (trimEnd s).toList := by
  rw [trimEnd, String.toList_ofList]
  exact fun mem => single ((List.rdropWhile_prefix isBlank s.toList).subset mem)

end ClientGen.Text
