import ClientGen.Files.Path
import ClientGen.Proofs.Text.Lines

/-! # Paths below a directory

Paths that are put together from names lead from directory to directory and never out of one. What
such a path is held by can be read off how it was put together, and the names between its slashes
are the ones that it was made of.
-/

namespace ClientGen

/-- What can be the name of one file or directory, whichever character separates names. -/
structure Path.IsName (name : String) : Prop where
  ne_empty : name ≠ ""
  slash : '/' ∉ name.toList
  backslash : '\\' ∉ name.toList
  ne_dot : name ≠ "."
  ne_dots : name ≠ ".."

instance (name : String) : Decidable (Path.IsName name) :=
  decidable_of_iff
    (name ≠ "" ∧ '/' ∉ name.toList ∧ '\\' ∉ name.toList ∧ name ≠ "." ∧ name ≠ "..")
    ⟨fun ⟨nonempty, slash, backslash, dot, dots⟩ => ⟨nonempty, slash, backslash, dot, dots⟩,
      fun h => ⟨h.ne_empty, h.slash, h.backslash, h.ne_dot, h.ne_dots⟩⟩

namespace Path

variable {dir name path : String}

theorem IsName.of_alphanum {c : Char} (mem : c ∈ name.toList) (alphanum : c.isAlphanum = true)
    (slash : '/' ∉ name.toList) (backslash : '\\' ∉ name.toList) : IsName name where
  ne_empty := by
    rintro rfl
    cases mem
  slash := slash
  backslash := backslash
  ne_dot := by
    rintro rfl
    obtain rfl := List.mem_singleton.mp mem
    cases alphanum
  ne_dots := by
    rintro rfl
    obtain rfl : c = '.' := by simpa using mem
    cases alphanum

/-- A path that leads down from a directory, one name at a time. -/
inductive Descends : String → Prop
  | single {name : String} (h : IsName name) : Descends name
  | inner {dir name : String} (outer : Descends dir) (h : IsName name) :
      Descends (dir ++ "/" ++ name)

/-- A relative path that leads out of no directory: there are only names between its slashes. -/
structure LeadsInside (path : String) : Prop where
  ne_empty : path ≠ ""
  relative : isAbsolute path = false
  names : ∀ name ∈ Text.split (· = '/') path, IsName name

theorem LeadsInside.dots_not_mem (h : LeadsInside path) : ".." ∉ Path.names path := by
  intro mem
  exact (h.names ".." (List.mem_filter.mp mem).1).ne_dots rfl

theorem IsName.split_eq (h : IsName name) : Text.split (· = '/') name = [name] := by
  have noSlash : ∀ c ∈ name.toList, decide (c = '/') = false := by
    intro c mem
    simp only [decide_eq_false_iff_not]
    rintro rfl
    exact h.slash mem
  rw [Text.split, Text.splitChars_of_not_mem noSlash, List.map_singleton, String.ofList_toList]

theorem split_below (dir : String) (h : IsName name) :
    Text.split (· = '/') (dir ++ "/" ++ name) = Text.split (· = '/') dir ++ [name] := by
  have chars : (dir ++ "/" ++ name).toList = dir.toList ++ '/' :: name.toList := by simp
  rw [← h.split_eq, Text.split, chars, Text.splitChars_append (decide_eq_true rfl), List.map_append]
  rfl

theorem IsName.isAbsolute_eq (h : IsName name) : isAbsolute name = false := by
  simp only [isAbsolute, decide_eq_false_iff_not]
  exact fun first => h.slash (List.mem_of_head? first)

theorem Descends.leadsInside (h : Descends path) : LeadsInside path := by
  induction h with
  | single h =>
      refine ⟨h.ne_empty, h.isAbsolute_eq, ?_⟩
      rw [h.split_eq]
      exact List.forall_mem_singleton.mpr h
  | @inner dir name outer h ih =>
      refine ⟨by simp, ?_, ?_⟩
      · obtain ⟨c, rest, chars⟩ :=
          List.exists_cons_of_ne_nil (mt String.toList_eq_nil_iff.mp ih.ne_empty)
        have relative := ih.relative
        simp only [isAbsolute, chars] at relative
        simpa [isAbsolute, chars] using relative
      · intro other mem
        rw [split_below dir h, List.mem_append, List.mem_singleton] at mem
        rcases mem with inner | rfl
        · exact ih.names other inner
        · exact h

/-- A name is no slash or single dot that does not count at the end of a path. -/
theorem IsName.trimReversed_eq (h : IsName name) (before : List Char) :
    trimReversed (name.toList.reverse ++ before) = name.toList.reverse ++ before := by
  cases reversed : name.toList.reverse with
  | nil => exact absurd (by simpa using reversed) h.ne_empty
  | cons c rest =>
      have chars : name.toList = rest.reverse ++ [c] := by
        rw [← List.reverse_reverse name.toList, reversed, List.reverse_cons]
      have last : c ≠ '/' := by
        rintro rfl
        exact h.slash (by simp [chars])
      have noDot : ¬(c = '.' ∧ (rest ++ before).head? = some '/') := by
        rintro ⟨rfl, next⟩
        cases rest with
        | nil => exact h.ne_dot (String.toList_injective chars)
        | cons d more =>
            obtain rfl : d = '/' := by simpa using next
            exact h.slash (by simp [chars])
      rw [List.cons_append, trimReversed, if_neg last, if_neg (by simpa using noDot)]

theorem splitReversed_eq (h : IsName name) {before : List Char}
    (start : ∀ c ∈ before.head?, c = '/')
    (chars : path.toList.reverse = name.toList.reverse ++ before) :
    splitReversed path = (name.toList.reverse, before) := by
  have inside : ∀ c ∈ name.toList.reverse, decide (c ≠ '/') = true := by
    intro c mem
    simp only [ne_eq, decide_not, Bool.not_eq_true', decide_eq_false_iff_not]
    rintro rfl
    exact h.slash (List.mem_reverse.mp mem)
  rw [splitReversed, chars, h.trimReversed_eq]
  simp only [List.takeWhile_append_of_pos inside, List.dropWhile_append_of_pos inside]
  cases before with
  | nil => simp
  | cons c rest =>
      obtain rfl : c = '/' := start c rfl
      simp

theorem parent?_eq (h : IsName name) {before : List Char}
    (split : splitReversed path = (name.toList.reverse, before)) :
    parent? path = some (String.ofList (trimReversed before).reverse) := by
  have nonempty : name.toList.reverse ≠ [] := by simpa using h.ne_empty
  rw [parent?, split]
  split
  · rename_i nothing
    exact absurd (congrArg Prod.fst nothing) nonempty
  · rename_i same
    obtain ⟨-, rfl⟩ := Prod.mk.inj same
    rfl

theorem IsName.parent?_eq (h : IsName name) : parent? name = some "" := by
  have split : splitReversed name = (name.toList.reverse, []) :=
    splitReversed_eq h (by simp) (by simp)
  rw [Path.parent?_eq h split]
  rfl

/-- Nothing at the end of a path that is put together from names does not count. -/
theorem Descends.trimReversed_eq (h : Descends path) :
    trimReversed path.toList.reverse = path.toList.reverse := by
  cases h with
  | single h => simpa using h.trimReversed_eq []
  | @inner dir name _ h => simpa using h.trimReversed_eq ('/' :: dir.toList.reverse)

theorem Descends.parent?_below (outer : Descends dir) (h : IsName name) :
    parent? (dir ++ "/" ++ name) = some dir := by
  have split : splitReversed (dir ++ "/" ++ name)
      = (name.toList.reverse, '/' :: dir.toList.reverse) :=
    splitReversed_eq h (by simp) (by simp)
  have nonempty : dir.toList.reverse.isEmpty = false := by
    simpa using outer.leadsInside.ne_empty
  rw [parent?_eq h split, trimReversed, if_pos rfl, nonempty, if_neg Bool.false_ne_true,
    outer.trimReversed_eq, List.reverse_reverse, String.ofList_toList]

end Path

end ClientGen
