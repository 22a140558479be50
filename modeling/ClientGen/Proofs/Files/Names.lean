import ClientGen.Files.Basic
import ClientGen.Proofs.Files.Path
import Mathlib.Data.List.TakeWhile

/-! # Names along paths

What holds a path is reached by all names along the path but the last one. So a path can be followed
through the names, and neither the slashes and dots between them matter nor how many there are.
-/

namespace ClientGen.Path

variable {path parent dir name : String} {cs before : List Char}

/-- Whether a piece between slashes leads anywhere. -/
def leads (name : String) : Bool :=
  name ≠ "" && name ≠ "."

/-- The names along a path of these characters. -/
def namesOf (cs : List Char) : List String :=
  ((Text.splitChars (· = '/') cs).map String.ofList).filter leads

theorem names_eq (path : String) : names path = namesOf path.toList := by
  have same : (fun name : String => decide (name ≠ "" ∧ name ≠ ".")) = leads := by
    funext name
    simp [leads]
  rw [names, namesOf, Text.split]
  simp only [← same, Bool.decide_and]

theorem namesOf_append (cs before : List Char) :
    namesOf (cs ++ '/' :: before) = namesOf cs ++ namesOf before := by
  rw [namesOf, Text.splitChars_append (decide_eq_true rfl), List.map_append, List.filter_append]
  rfl

theorem namesOf_of_not_mem (slash : '/' ∉ cs) :
    namesOf cs = [String.ofList cs].filter leads := by
  have inner : ∀ c ∈ cs, decide (c = '/') = false := by
    intro c mem
    rw [decide_eq_false_iff_not]
    rintro rfl
    exact slash mem
  rw [namesOf, Text.splitChars_of_not_mem inner, List.map_singleton]

theorem namesOf_ended (cs : List Char) : namesOf (cs ++ ['/']) = namesOf cs := by
  rw [namesOf_append]
  exact List.append_nil _

theorem IsName.leads (h : IsName name) : leads name = true := by
  simp [Path.leads, h.ne_empty, h.ne_dot]

theorem names_below (dir : String) (h : IsName name) :
    names (dir ++ "/" ++ name) = names dir ++ [name] := by
  have chars : (dir ++ "/" ++ name).toList = dir.toList ++ '/' :: name.toList := by simp
  rw [names_eq, chars, namesOf_append, ← names_eq, namesOf_of_not_mem h.slash,
    String.ofList_toList, List.filter_cons_of_pos h.leads]
  rfl

theorem names_join (base : String) (relative : isAbsolute path = false) :
    names (join base path) = names base ++ names path := by
  rw [join, relative, if_neg Bool.false_ne_true]
  split
  · rename_i ended
    simp only [Bool.or_eq_true, decide_eq_true_eq] at ended
    rcases ended with rfl | last
    · rw [String.empty_append]
      rfl
    · obtain ⟨front, chars⟩ := List.getLast?_eq_some_iff.mp last
      rw [names_eq, names_eq, names_eq, String.toList_append, chars, List.append_assoc,
        List.singleton_append, namesOf_append, namesOf_ended]
  · have chars : (base ++ "/" ++ path).toList = base.toList ++ '/' :: path.toList := by simp
    rw [names_eq, chars, namesOf_append, ← names_eq, ← names_eq]

theorem isAbsolute_join (base : String) (relative : isAbsolute path = false) :
    isAbsolute (join base path) = isAbsolute base := by
  rw [join, relative, if_neg Bool.false_ne_true]
  by_cases empty : base = ""
  · subst empty
    rw [if_pos (by simp), String.empty_append, relative]
    rfl
  · obtain ⟨c, rest, chars⟩ := List.exists_cons_of_ne_nil (mt String.toList_eq_nil_iff.mp empty)
    split <;> simp [isAbsolute, chars]

theorem IsName.names_eq (h : IsName name) : names name = [name] := by
  rw [Path.names_eq, namesOf_of_not_mem h.slash, String.ofList_toList,
    List.filter_cons_of_pos h.leads]
  rfl

theorem Descends.exists_last (h : Descends path) :
    ∃ front name, IsName name ∧ path = front ++ name ∧
      ∃ before, names path = before ++ [name] := by
  cases h with
  | single h => exact ⟨"", _, h, String.empty_append.symm, [], h.names_eq⟩
  | @inner dir name outer h => exact ⟨dir ++ "/", name, h, rfl, names dir, names_below dir h⟩

theorem Descends.names_ne_nil (h : Descends path) : names path ≠ [] := by
  obtain ⟨_, _, _, _, before, named⟩ := h.exists_last
  rw [named]
  exact List.append_ne_nil_of_right_ne_nil before (List.cons_ne_nil _ _)

theorem Descends.eq_of_names_eq {other : String} (h : Descends path) (h' : Descends other)
    (same : names path = names other) : path = other := by
  induction h generalizing other with
  | @single name h =>
      rw [h.names_eq] at same
      cases h' with
      | single h' =>
          rw [h'.names_eq] at same
          exact (List.cons.inj same).1
      | @inner dir last outer h' =>
          rw [names_below dir h'] at same
          have split := (List.nil_append _).trans same
          exact absurd (List.append_inj' split rfl).1.symm outer.names_ne_nil
  | @inner dir name outer h ih =>
      rw [names_below dir h] at same
      cases h' with
      | single h' =>
          have split := same.trans (h'.names_eq.trans (List.nil_append _).symm)
          exact absurd (List.append_inj' split rfl).1 outer.names_ne_nil
      | @inner dir' last outer' h' =>
          rw [names_below dir' h'] at same
          obtain ⟨dirs, lasts⟩ := List.append_inj' same rfl
          rw [ih outer' dirs, (List.cons.inj lasts).1]

theorem IsName.namesDirectory_append (h : IsName name) (front : String) :
    namesDirectory (front ++ name) = false := by
  have reversed : (front ++ name).toList.reverse = name.toList.reverse ++ front.toList.reverse := by
    simp
  rw [namesDirectory, reversed]
  cases chars : name.toList.reverse with
  | nil => exact absurd (by simpa using chars) h.ne_empty
  | cons c rest =>
      have inner : ∀ d ∈ c :: rest, d ≠ '/' := by
        rintro d mem rfl
        exact h.slash (List.mem_reverse.mp (chars ▸ mem))
      have dotted : c = '.' → rest ≠ [] := by
        rintro rfl rfl
        have dot : name.toList = ['.'] := by simpa using congrArg List.reverse chars
        exact h.ne_dot (String.toList_injective dot)
      rw [List.cons_append]
      split
      · rename_i same
        exact absurd (List.cons.inj same).1 (inner c (.head _))
      · rename_i same
        obtain ⟨dot, nothing⟩ := List.cons.inj same
        exact absurd (List.append_eq_nil_iff.mp nothing).1 (dotted dot)
      · rename_i same
        obtain ⟨dot, next⟩ := List.cons.inj same
        obtain ⟨d, more, rfl⟩ := List.exists_cons_of_ne_nil (dotted dot)
        exact absurd (List.cons.inj next).1 (inner d (.tail _ (.head _)))
      · rfl

theorem namesOf_trimReversed (cs : List Char) :
    namesOf (trimReversed cs).reverse = namesOf cs.reverse := by
  fun_induction trimReversed cs with
  | case1 => rfl
  | case2 rest empty =>
      obtain rfl := List.isEmpty_iff.mp empty
      rfl
  | case3 rest more ih => rw [ih, List.reverse_cons, namesOf_ended]
  | case4 c rest slash dotted ih =>
      obtain ⟨rfl, next⟩ : c = '.' ∧ rest.head? = some '/' := by simpa using dotted
      obtain ⟨more, rfl⟩ := List.head?_eq_some_iff.mp next
      have dot : namesOf ['.'] = [] := by decide
      rw [ih, List.reverse_cons, List.reverse_cons, List.reverse_cons, List.append_assoc,
        namesOf_ended, List.singleton_append, namesOf_append, dot, List.append_nil]
  | case5 => rfl

theorem trimReversed_suffix (cs : List Char) : trimReversed cs <:+ cs := by
  fun_induction trimReversed cs with
  | case2 rest empty =>
      obtain rfl := List.isEmpty_iff.mp empty
      exact List.suffix_refl _
  | case3 rest more ih => exact ih.trans (List.suffix_cons _ _)
  | case4 c rest slash dotted ih => exact ih.trans (List.suffix_cons _ _)
  | _ => exact List.suffix_refl _

theorem trimReversed_ne_nil (nonempty : cs ≠ []) : trimReversed cs ≠ [] := by
  fun_induction trimReversed cs with
  | case3 rest more ih => exact ih (by simpa using more)
  | case4 c rest slash dotted ih =>
      refine ih ?_
      rintro rfl
      simp at dotted
  | case1 => exact nonempty
  | _ => exact List.cons_ne_nil _ _

/-- What is left of a path does not end in a slash, unless it is the root, or in a single dot behind
    a slash. -/
theorem trimReversed_eq_cons {c : Char} (h : trimReversed cs = c :: before) :
    (c = '/' → before = []) ∧ (c = '.' → before.head? ≠ some '/') := by
  fun_induction trimReversed cs with
  | case1 => cases h
  | case2 rest empty =>
      obtain ⟨rfl, rfl⟩ := List.cons.inj h
      exact ⟨fun _ => rfl, fun same => absurd same (by decide)⟩
  | case3 rest more ih => exact ih h
  | case4 c rest slash dotted ih => exact ih h
  | case5 d rest slash plain =>
      cases h
      refine ⟨fun same => absurd same slash, ?_⟩
      rintro rfl next
      exact plain (by simp [next])

/-- A path is split at the last slash before its last name. -/
theorem splitReversed_cases {last : List Char} (split : splitReversed path = (last, before)) :
    trimReversed path.toList.reverse = last ++ before ∧ '/' ∉ last ∧
      (before = [] ∨ ∃ rest, before = '/' :: rest) := by
  obtain ⟨rfl, rfl⟩ := Prod.mk.inj split
  refine ⟨List.takeWhile_append_dropWhile.symm, fun mem => ?_, ?_⟩
  · simpa using List.mem_takeWhile_imp mem
  · have stopped := List.head?_dropWhile_not (· ≠ '/') (trimReversed path.toList.reverse)
    generalize (trimReversed path.toList.reverse).dropWhile (· ≠ '/') = before at stopped ⊢
    cases before with
    | nil => exact .inl rfl
    | cons c rest =>
        obtain rfl : c = '/' := by simpa using stopped
        exact .inr ⟨rest, rfl⟩

theorem parent?_eq_some (h : parent? path = some parent) :
    ∃ last before, splitReversed path = (last, before) ∧ last ≠ [] ∧
      parent = String.ofList (trimReversed before).reverse := by
  rw [parent?] at h
  generalize splitReversed path = split at h ⊢
  obtain ⟨last, before⟩ := split
  cases last with
  | nil => cases h
  | cons c last => exact ⟨_, _, rfl, List.cons_ne_nil _ _, (Option.some.inj h).symm⟩

/-- A path is what holds it, then a last name, and perhaps slashes and dots at its end. -/
theorem exists_of_parent? (h : parent? path = some parent) :
    ∃ last junk, last ≠ [] ∧ '/' ∉ last ∧
      names path = names parent ++ namesOf last ∧
      (parent = "" ∧ path.toList = last ++ junk ∨
        parent ≠ "" ∧ last ≠ ['.'] ∧
          ∃ between, path.toList = parent.toList ++ (between ++ last ++ junk)) := by
  obtain ⟨last, before, split, nonempty, rfl⟩ := parent?_eq_some h
  obtain ⟨trimmed, inner, outer⟩ := splitReversed_cases split
  obtain ⟨junk, reversed⟩ := trimReversed_suffix path.toList.reverse
  have path_eq : path.toList = before.reverse ++ last.reverse ++ junk.reverse := by
    rw [← List.reverse_reverse path.toList, ← reversed, trimmed, List.reverse_append,
      List.reverse_append]
  have names_path : names path = namesOf (before.reverse ++ last.reverse) := by
    rw [names_eq, ← List.reverse_reverse path.toList, ← namesOf_trimReversed, trimmed,
      List.reverse_append]
  have names_parent : names (String.ofList (trimReversed before).reverse)
      = namesOf before.reverse := by
    rw [names_eq, String.toList_ofList, namesOf_trimReversed]
  refine ⟨last.reverse, junk.reverse, by simpa using nonempty, mt List.mem_reverse.mp inner, ?_⟩
  rw [names_path, names_parent]
  rcases outer with rfl | ⟨rest, rfl⟩
  · exact ⟨rfl, .inl ⟨rfl, path_eq⟩⟩
  · refine ⟨?_, .inr ⟨?_, ?_, ?_⟩⟩
    · rw [List.reverse_cons, List.append_assoc, List.singleton_append, namesOf_append,
        namesOf_ended]
    · simpa using trimReversed_ne_nil (List.cons_ne_nil '/' rest)
    · intro dot
      obtain rfl : last = ['.'] := by simpa using congrArg List.reverse dot
      exact (trimReversed_eq_cons trimmed).2 rfl rfl
    · obtain ⟨between, behind⟩ := trimReversed_suffix ('/' :: rest)
      have spread : ('/' :: rest).reverse
          = (trimReversed ('/' :: rest)).reverse ++ between.reverse := by
        rw [← List.reverse_append, behind]
      refine ⟨between.reverse, ?_⟩
      rw [path_eq, spread, String.toList_ofList]
      simp only [List.append_assoc]

/-- What holds a path is the path without its last name. -/
structure Holds (parent path : String) : Prop where
  names : names path = names parent ∧ names parent = [] ∨
    ∃ last, names path = names parent ++ [last]
  isAbsolute_eq : isAbsolute parent = isAbsolute path
  front : parent.toList <+: path.toList
  shorter : parent.length < path.length

theorem holds_of_parent? (h : parent? path = some parent) : Holds parent path := by
  obtain ⟨last, junk, nonempty, slash, names_eq, place⟩ := exists_of_parent? h
  have size := List.length_pos_iff.mpr nonempty
  rw [namesOf_of_not_mem slash] at names_eq
  rcases place with ⟨rfl, chars⟩ | ⟨named, noDot, between, chars⟩
  · refine ⟨?_, ?_, List.nil_prefix, ?_⟩
    · by_cases leading : leads (String.ofList last) = true
      · rw [List.filter_cons_of_pos leading] at names_eq
        exact .inr ⟨_, names_eq⟩
      · rw [List.filter_cons_of_neg leading] at names_eq
        exact .inl ⟨names_eq, rfl⟩
    · obtain ⟨c, rest, rfl⟩ := List.exists_cons_of_ne_nil nonempty
      have other : c ≠ '/' := fun same => slash (same ▸ .head _)
      simp [isAbsolute, chars, other]
    · rw [← String.length_toList (s := path), chars, List.length_append]
      exact Nat.lt_add_right _ size
  · have leading : leads (String.ofList last) = true := by
      have noDot' : String.ofList last ≠ "." := fun same => noDot (String.ofList_injective same)
      simp [leads, nonempty, noDot']
    rw [List.filter_cons_of_pos leading] at names_eq
    refine ⟨.inr ⟨_, names_eq⟩, ?_, chars ▸ List.prefix_append _ _, ?_⟩
    · obtain ⟨c, rest, first⟩ :=
        List.exists_cons_of_ne_nil (mt String.toList_eq_nil_iff.mp named)
      simp [isAbsolute, chars, first]
    · rw [← String.length_toList, ← String.length_toList, chars]
      simp only [List.length_append]
      omega

theorem names_of_parent?_none (h : parent? path = none) : names path = [] := by
  have same := namesOf_trimReversed path.toList.reverse
  rw [List.reverse_reverse, ← names_eq] at same
  rw [← same]
  rw [parent?, splitReversed] at h
  cases found : trimReversed path.toList.reverse with
  | nil => rfl
  | cons c rest =>
      rw [found] at h
      by_cases slash : c = '/'
      · obtain rfl := (trimReversed_eq_cons found).1 slash
        subst slash
        decide
      · simp [slash] at h

theorem namesDirectory_join (base : String) (inside : Descends path) :
    namesDirectory (join base path) = false := by
  obtain ⟨front, name, isName, rfl, -⟩ := inside.exists_last
  rw [join, inside.leadsInside.relative, if_neg Bool.false_ne_true]
  split
  · rw [← String.append_assoc]
    exact isName.namesDirectory_append _
  · rw [← String.append_assoc]
    exact isName.namesDirectory_append _

/-- What holds a path below a directory is below this directory, or is the directory itself. -/
theorem exists_parent_join {base : String} (named : names base ≠ []) (inside : Descends path) :
    ∃ parent last, parent? (join base path) = some parent ∧ Holds parent (join base path) ∧
      names (join base path) = names parent ++ [last] ∧
      names parent = names base ++ (names path).dropLast := by
  have names_eq := names_join base inside.leadsInside.relative
  cases held : parent? (join base path) with
  | none =>
      rw [names_of_parent?_none held] at names_eq
      exact absurd (List.append_eq_nil_iff.mp names_eq.symm).1 named
  | some parent =>
      have holds := holds_of_parent? held
      rcases holds.names with ⟨same, empty⟩ | ⟨last, split⟩
      · rw [same, empty] at names_eq
        exact absurd (List.append_eq_nil_iff.mp names_eq.symm).1 named
      · refine ⟨parent, last, rfl, holds, split, ?_⟩
        have front : (names (join base path)).dropLast = names parent := by
          rw [split, List.dropLast_concat]
        rw [← front, names_eq, List.dropLast_append_of_ne_nil inside.names_ne_nil]

end ClientGen.Path
