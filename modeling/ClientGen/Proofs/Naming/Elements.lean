import ClientGen.Naming
import ClientGen.Proofs.Text.Lines
import ClientGen.Proofs.Text.Trimming

/-! # Elements of names

A name is taken apart at its separators. What stands between two of them is an element, unless it is
nothing, and the last element is what a name is reduced to: neither the elements before it nor the
separators behind it matter.
-/

namespace ClientGen.Naming

variable {p : Char → Bool} {c : Char} {cs before after element : List Char} {s : String}

/-- What stands behind the last of the characters that satisfy `p`, where those at the end do not
    count. -/
def lastPiece (p : Char → Bool) (cs : List Char) : List Char :=
  afterLast p (Text.dropEndWhile p cs)

theorem afterLast_append (separates : p c = true) (before after : List Char) :
    afterLast p (before ++ c :: after) = afterLast p after := by
  have stops : ¬(!p c) = true := by simp [separates]
  induction after using List.reverseRecOn with
  | nil => exact List.rtakeWhile_concat_neg (fun c => !p c) before c stops
  | append_singleton after d ih =>
      have split : before ++ c :: (after ++ [d]) = before ++ c :: after ++ [d] := by simp
      have taken (cs : List Char) :
          afterLast p (cs ++ [d]) = if (!p d) = true then afterLast p cs ++ [d] else [] :=
        List.rtakeWhile_concat (fun c => !p c) cs d
      rw [split, taken, taken, ih]

theorem not_of_mem_lastPiece (mem : c ∈ lastPiece p cs) : p c = false := by
  simpa using List.mem_rtakeWhile_imp mem

theorem lastPiece_eq_nil_iff : lastPiece p cs = [] ↔ ∀ c ∈ cs, p c = true := by
  rw [← List.rdropWhile_eq_nil_iff]
  constructor
  · intro none
    by_contra trimmed
    have last := List.rtakeWhile_eq_nil_iff.mp none trimmed
    simp only [Bool.not_eq_true', Bool.not_eq_false] at last
    exact List.rdropWhile_last_not p cs trimmed last
  · intro trimmed
    show afterLast p (List.rdropWhile p cs) = []
    rw [trimmed]
    rfl

theorem lastPiece_eq_self (inside : ∀ c ∈ cs, p c = false) : lastPiece p cs = cs := by
  have trimmed : Text.dropEndWhile p cs = cs :=
    List.rdropWhile_eq_self_iff.mpr fun nonempty => by
      simp [inside _ (List.getLast_mem nonempty)]
  rw [lastPiece, trimmed]
  exact List.rtakeWhile_eq_self_iff.mpr fun c mem => by simp [inside c mem]

theorem lastPiece_append_of_forall (separators : ∀ c ∈ after, p c = true) :
    lastPiece p (cs ++ after) = lastPiece p cs := by
  rw [lastPiece, Text.dropEndWhile_append_of_forall separators, lastPiece]

/-- What stands before a separator makes no difference if something else stands behind it. -/
theorem lastPiece_append (separates : p c = true) (named : ∃ d ∈ after, p d = false) :
    lastPiece p (before ++ c :: after) = lastPiece p after := by
  have split : before ++ c :: after = before ++ [c] ++ after := by simp
  rw [lastPiece, split, Text.dropEndWhile_append_of_exists named, List.append_assoc,
    List.singleton_append, afterLast_append separates, lastPiece]

/-- The elements of a name: what stands between its separators, where that is something. -/
def elements (cs : List Char) : List (List Char) :=
  (Text.splitChars isSeparator cs).filter (!·.isEmpty)

/-- The last element of a name, or nothing if it has no elements. -/
def lastOf (name : String) : List Char :=
  (elements name.toList).getLastD []

theorem elements_append (separates : isSeparator c = true) (before after : List Char) :
    elements (before ++ c :: after) = elements before ++ elements after := by
  rw [elements, Text.splitChars_append separates, List.filter_append]
  rfl

theorem elements_of_not_mem (nonempty : element ≠ [])
    (inside : ∀ c ∈ element, isSeparator c = false) : elements element = [element] := by
  rw [elements, Text.splitChars_of_not_mem inside]
  simp [nonempty]

theorem elements_of_separators (h : ∀ c ∈ cs, isSeparator c = true) : elements cs = [] := by
  induction cs with
  | nil => rfl
  | cons c cs ih =>
      obtain ⟨first, others⟩ := List.forall_mem_cons.mp h
      have split : elements ([] ++ c :: cs) = _ := elements_append first [] cs
      rw [List.nil_append] at split
      rw [split, ih others]
      rfl

/-- The last element of a name, with what stands before it and the separators behind it. -/
structure EndsIn (before element after : List Char) : Prop where
  nonempty : element ≠ []
  inside : ∀ c ∈ element, isSeparator c = false
  opened : ∀ c ∈ before.getLast?, isSeparator c = true
  closed : ∀ c ∈ after, isSeparator c = true

theorem exists_endsIn (cs : List Char) :
    (∀ c ∈ cs, isSeparator c = true) ∨
      ∃ before element after, cs = before ++ element ++ after ∧ EndsIn before element after := by
  induction cs with
  | nil => exact .inl (List.forall_mem_nil _)
  | cons c cs ih =>
      cases kind : isSeparator c with
      | true =>
          obtain separators | ⟨before, element, after, rfl, ends⟩ := ih
          · exact .inl (List.forall_mem_cons.mpr ⟨kind, separators⟩)
          · refine .inr ⟨c :: before, element, after, rfl, { ends with opened := ?_ }⟩
            rw [List.getLast?_cons]
            cases last : before.getLast? with
            | none => simpa using kind
            | some d => simpa [last] using ends.opened
      | false =>
          obtain separators | ⟨before, element, after, rfl, ends⟩ := ih
          · exact .inr ⟨[], [c], cs, rfl, List.cons_ne_nil _ _, List.forall_mem_singleton.mpr kind,
              by simp, separators⟩
          · cases before with
            | nil =>
                exact .inr ⟨[], c :: element, after, rfl, List.cons_ne_nil _ _,
                  List.forall_mem_cons.mpr ⟨kind, ends.inside⟩, ends.opened, ends.closed⟩
            | cons d before =>
                refine .inr ⟨c :: d :: before, element, after, rfl, { ends with opened := ?_ }⟩
                rw [List.getLast?_cons_cons]
                exact ends.opened

theorem EndsIn.of_append {front : List Char} (h : EndsIn (front ++ c :: before) element after) :
    EndsIn (c :: before) element after := by
  have opened := h.opened
  rw [List.getLast?_append_cons] at opened
  exact { h with opened }

theorem EndsIn.getLastD_elements (h : EndsIn before element after) :
    (elements (before ++ element ++ after)).getLastD [] = element := by
  have ending : elements (element ++ after) = [element] := by
    cases after with
    | nil => rw [List.append_nil, elements_of_not_mem h.nonempty h.inside]
    | cons c after =>
        obtain ⟨first, others⟩ := List.forall_mem_cons.mp h.closed
        rw [elements_append first, elements_of_not_mem h.nonempty h.inside,
          elements_of_separators others, List.append_nil]
  rw [List.append_assoc]
  obtain rfl | ⟨front, c, rfl⟩ := List.eq_nil_or_concat before
  · rw [List.nil_append, ending]
    rfl
  · rw [List.concat_eq_append] at h ⊢
    have separates : isSeparator c = true := h.opened c (by simp)
    rw [List.append_assoc, List.singleton_append, elements_append separates, ending]
    simp

theorem EndsIn.lastOf_eq (h : EndsIn before element after) :
    lastOf (String.ofList (before ++ element ++ after)) = element := by
  rw [lastOf, String.toList_ofList, h.getLastD_elements]

theorem lastOf_of_separators (h : ∀ c ∈ cs, isSeparator c = true) :
    lastOf (String.ofList cs) = [] := by
  rw [lastOf, String.toList_ofList, elements_of_separators h]
  rfl

theorem mem_of_mem_lastOf {name : String} (mem : c ∈ lastOf name) : c ∈ name.toList := by
  rw [← String.ofList_toList (s := name)] at mem
  obtain separators | ⟨before, element, after, split, ends⟩ := exists_endsIn name.toList
  · rw [lastOf_of_separators separators] at mem
    cases mem
  · rw [split, ends.lastOf_eq] at mem
    rw [split]
    exact List.mem_append_left _ (List.mem_append_right _ mem)

theorem EndsIn.lastPiece_eq (h : EndsIn before element after) :
    lastPiece isSeparator (before ++ element ++ after) = element := by
  rw [lastPiece_append_of_forall h.closed]
  obtain rfl | ⟨front, c, rfl⟩ := List.eq_nil_or_concat before
  · exact lastPiece_eq_self h.inside
  · obtain ⟨d, mem⟩ := List.exists_mem_of_ne_nil element h.nonempty
    rw [List.concat_eq_append, List.append_assoc, List.singleton_append,
      lastPiece_append (h.opened c (by simp)) ⟨d, mem, h.inside d mem⟩,
      lastPiece_eq_self h.inside]

theorem lastElement_of_exists (named : ∃ c ∈ s.toList, isSeparator c = false) :
    lastElement s = String.ofList (lastPiece isSeparator s.toList) := by
  obtain ⟨c, mem, inside⟩ := named
  have nonempty : s ≠ "" := by
    rintro rfl
    cases mem
  rw [lastElement, if_neg (by simpa using nonempty)]
  split
  · rename_i trimmed
    have separates := List.rdropWhile_eq_nil_iff.mp trimmed c mem
    rw [inside] at separates
    cases separates
  · rfl

theorem lastElement_of_separators (nonempty : cs ≠ []) (h : ∀ c ∈ cs, isSeparator c = true) :
    lastElement (String.ofList cs) = "/" := by
  have trimmed : Text.dropEndWhile isSeparator cs = [] := List.rdropWhile_eq_nil_iff.mpr h
  rw [lastElement, String.toList_ofList, trimmed, if_neg (by simpa using nonempty)]

/-- Neither the separators at the end nor what stands before the last of the others is kept. -/
theorem EndsIn.lastElement_eq (h : EndsIn before element after) :
    lastElement (String.ofList (before ++ element ++ after)) = String.ofList element := by
  obtain ⟨c, mem⟩ := List.exists_mem_of_ne_nil element h.nonempty
  rw [lastElement_of_exists, String.toList_ofList, h.lastPiece_eq]
  refine ⟨c, ?_, h.inside c mem⟩
  rw [String.toList_ofList]
  exact List.mem_append_left _ (List.mem_append_right _ mem)

theorem elements_eq_nil_iff : elements cs = [] ↔ ∀ c ∈ cs, isSeparator c = true := by
  obtain separators | ⟨before, element, after, rfl, ends⟩ := exists_endsIn cs
  · exact iff_of_true (elements_of_separators separators) separators
  · refine iff_of_false (fun none => ends.nonempty ?_) fun separators => ?_
    · rw [← ends.getLastD_elements, none]
      rfl
    · obtain ⟨c, mem⟩ := List.exists_mem_of_ne_nil element ends.nonempty
      have inside := ends.inside c mem
      rw [separators c (List.mem_append_left _ (List.mem_append_right _ mem))] at inside
      cases inside

/-- The last element of a name that is not made of separators is its last piece. -/
theorem getLast?_elements (named : ∃ c ∈ cs, isSeparator c = false) :
    (elements cs).getLast? = some (lastPiece isSeparator cs) := by
  obtain separators | ⟨before, element, after, rfl, ends⟩ := exists_endsIn cs
  · obtain ⟨c, mem, inside⟩ := named
    rw [separators c mem] at inside
    cases inside
  · rw [ends.lastPiece_eq]
    have last := ends.getLastD_elements
    rw [List.getLastD_eq_getLast?] at last
    cases found : (elements (before ++ element ++ after)).getLast? with
    | none =>
        rw [found] at last
        exact absurd last.symm ends.nonempty
    | some other =>
        rw [found] at last
        exact congrArg some last

theorem lastElement_cases (s : String) :
    s = "" ∧ lastElement s = "." ∨
    s ≠ "" ∧ (∀ c ∈ s.toList, isSeparator c = true) ∧ lastElement s = "/" ∨
    (∃ c ∈ s.toList, isSeparator c = false) ∧
      lastElement s = String.ofList (lastPiece isSeparator s.toList) := by
  by_cases empty : s = ""
  · exact .inl ⟨empty, by rw [empty]; rfl⟩
  · by_cases separators : ∀ c ∈ s.toList, isSeparator c = true
    · have root := lastElement_of_separators (by simpa using empty) separators
      rw [String.ofList_toList] at root
      exact .inr (.inl ⟨empty, separators, root⟩)
    · simp only [not_forall, Bool.not_eq_true] at separators
      obtain ⟨c, mem, inside⟩ := separators
      exact .inr (.inr ⟨⟨c, mem, inside⟩, lastElement_of_exists ⟨c, mem, inside⟩⟩)

theorem lastElement_ne_empty (s : String) : lastElement s ≠ "" := by
  obtain ⟨-, current⟩ | ⟨-, -, root⟩ | ⟨⟨c, mem, inside⟩, reduced⟩ := lastElement_cases s
  · rw [current]
    decide
  · rw [root]
    decide
  · rw [reduced]
    intro empty
    have separates := lastPiece_eq_nil_iff.mp (String.ofList_eq_empty_iff.mp empty) c mem
    rw [inside] at separates
    cases separates

theorem lastElement_eq_last (s : String) :
    lastElement s = match (elements s.toList).getLast? with
      | some element => String.ofList element
      | none => if s = "" then "." else "/" := by
  obtain ⟨rfl, -⟩ | ⟨nonempty, separators, root⟩ | ⟨named, reduced⟩ := lastElement_cases s
  · rfl
  · rw [elements_of_separators separators, root]
    simp [nonempty]
  · rw [getLast?_elements named, reduced]

theorem lastElement_inside (h : s = "" ∨ ∃ c ∈ s.toList, isSeparator c = false)
    (mem : c ∈ (lastElement s).toList) : isSeparator c = false := by
  obtain ⟨-, current⟩ | ⟨nonempty, separators, -⟩ | ⟨-, reduced⟩ := lastElement_cases s
  · rw [current] at mem
    rw [List.mem_singleton.mp mem]
    decide
  · obtain empty | ⟨c, mem, inside⟩ := h
    · exact absurd empty nonempty
    · rw [separators c mem] at inside
      cases inside
  · rw [reduced, String.toList_ofList] at mem
    exact not_of_mem_lastPiece mem

theorem lastElement_eq_self (nonempty : s ≠ "")
    (inside : ∀ c ∈ s.toList, isSeparator c = false) : lastElement s = s := by
  obtain ⟨c, mem⟩ := List.exists_mem_of_ne_nil s.toList (by simpa using nonempty)
  rw [lastElement_of_exists ⟨c, mem, inside c mem⟩, lastPiece_eq_self inside, String.ofList_toList]

theorem lastElement_lastElement (s : String) : lastElement (lastElement s) = lastElement s := by
  obtain ⟨-, current⟩ | ⟨-, -, root⟩ | ⟨named, -⟩ := lastElement_cases s
  · rw [current]
    decide
  · rw [root]
    decide
  · exact lastElement_eq_self (lastElement_ne_empty s) fun _ => lastElement_inside (.inr named)

theorem lastElement_append_of_forall {after : String}
    (named : ∃ c ∈ s.toList, isSeparator c = false)
    (separators : ∀ c ∈ after.toList, isSeparator c = true) :
    lastElement (s ++ after) = lastElement s := by
  obtain ⟨c, mem, inside⟩ := named
  rw [lastElement_of_exists ⟨c, mem, inside⟩, lastElement_of_exists ⟨c, by simp [mem], inside⟩,
    String.toList_append, lastPiece_append_of_forall separators]

theorem lastElement_append {before : String} (named : ∃ c ∈ s.toList, isSeparator c = false)
    (last : before.toList.getLast? = some c) (separates : isSeparator c = true) :
    lastElement (before ++ s) = lastElement s := by
  obtain ⟨front, split⟩ := List.getLast?_eq_some_iff.mp last
  obtain ⟨d, mem, inside⟩ := named
  rw [lastElement_of_exists ⟨d, mem, inside⟩, lastElement_of_exists ⟨d, by simp [mem], inside⟩,
    String.toList_append, split, List.append_assoc, List.singleton_append,
    lastPiece_append separates ⟨d, mem, inside⟩]

/-- A name is reduced to its last element, which is one path element: something without a separator,
    that is not reduced any further. Neither separators behind the name nor anything that ends in a
    separator before it makes a difference. A name without elements is the current directory if it
    is empty, and the root otherwise. -/
theorem lastElement_reduces (s : String) :
    lastElement s ≠ "" ∧
    (lastElement s = match (elements s.toList).getLast? with
      | some element => String.ofList element
      | none => if s = "" then "." else "/") ∧
    (elements s.toList = [] ↔ ∀ c ∈ s.toList, isSeparator c = true) ∧
    (s = "" ∨ (∃ c ∈ s.toList, isSeparator c = false) →
      ∀ c ∈ (lastElement s).toList, isSeparator c = false) ∧
    lastElement (lastElement s) = lastElement s ∧
    ((∃ c ∈ s.toList, isSeparator c = false) →
      (∀ after : String, (∀ c ∈ after.toList, isSeparator c = true) →
        lastElement (s ++ after) = lastElement s) ∧
      ∀ (before : String) (c : Char), before.toList.getLast? = some c → isSeparator c = true →
        lastElement (before ++ s) = lastElement s) :=
  ⟨lastElement_ne_empty s, lastElement_eq_last s, elements_eq_nil_iff,
    fun h _ => lastElement_inside h, lastElement_lastElement s, fun named =>
      ⟨fun _ => lastElement_append_of_forall named, fun _ _ => lastElement_append named⟩⟩

/-- A name with both separators, behind another one and before two more. -/
theorem lastElement_reduces_mixed :
    (∃ c ∈ "lib\\äpi".toList, isSeparator c = false) ∧
      (∀ c ∈ (lastElement "lib\\äpi").toList, isSeparator c = false) ∧
      (∀ c ∈ "/\\".toList, isSeparator c = true) ∧
      lastElement ("lib\\äpi" ++ "/\\") = lastElement "lib\\äpi" ∧
      "../".toList.getLast? = some '/' ∧ isSeparator '/' = true ∧
      lastElement ("../" ++ "lib\\äpi") = lastElement "lib\\äpi" ∧
      lastElement "lib\\äpi" = "äpi" := by
  have named : ∃ c ∈ "lib\\äpi".toList, isSeparator c = false := ⟨'l', by decide, by decide⟩
  obtain ⟨-, -, -, inside, -, kept⟩ := lastElement_reduces "lib\\äpi"
  obtain ⟨behind, front⟩ := kept named
  have separators : ∀ c ∈ "/\\".toList, isSeparator c = true := List.all_eq_true.mp (by decide)
  exact ⟨named, inside (.inr named), separators, behind _ separators, by decide, by decide,
    front _ '/' (by decide) (by decide), by decide⟩

end ClientGen.Naming
