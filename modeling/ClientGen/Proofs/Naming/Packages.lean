import ClientGen.Proofs.Naming.Elements
import ClientGen.Proofs.Naming.Reserved
import ClientGen.Proofs.Text.LowerCase

/-! # Packages of identifiers

The package name of an identifier is made of its last segment, in lower case and with underscores
for dots and dashes. It is a normal form: a text that has none of these characters and is in lower
case is its own package name, and every package name is such a text.
-/

namespace ClientGen.Naming

variable {c : Char} {s : String}

/-- What a character of a segment is before it is taken to lower case. -/
def joined (c : Char) : Char :=
  if c = '.' || c = '-' then '_' else c

/-- The last segment of an identifier. -/
def lastSegment (s : String) : List Char :=
  lastPiece (· = '/') s.toList

theorem packageOf_eq (s : String) :
    packageOf s = Text.lowercase (String.ofList ((lastSegment s).map joined)) := rfl

/-- A text of which nothing is replaced in a package name. -/
structure IsPackageForm (s : String) : Prop where
  slash : '/' ∉ s.toList
  dot : '.' ∉ s.toList
  dash : '-' ∉ s.toList
  small : ∀ c ∈ s.toList, Text.lowerChar c = [c]

theorem IsPackageForm.packageOf_eq (h : IsPackageForm s) : packageOf s = s := by
  have segment : lastSegment s = s.toList := lastPiece_eq_self fun c mem => by
    rw [decide_eq_false_iff_not]
    rintro rfl
    exact h.slash mem
  have kept : s.toList.map joined = s.toList := by
    refine (List.map_congr_left fun c mem => ?_).trans (List.map_id _)
    have dot : c ≠ '.' := fun same => h.dot (same ▸ mem)
    have dash : c ≠ '-' := fun same => h.dash (same ▸ mem)
    simp [joined, dot, dash]
  rw [Naming.packageOf_eq, segment, kept, String.ofList_toList, Text.lowercase_eq_self h.small]

theorem IsPackageForm.isUpper_eq (h : IsPackageForm s) (mem : c ∈ s.toList) :
    c.isUpper = false :=
  isUpper_eq_false_of_lowerChar (h.small c mem)

theorem joined_ne (c : Char) : joined c ≠ '.' ∧ joined c ≠ '-' := by
  rw [joined]
  split
  · decide
  · rename_i other
    simpa using other

theorem not_mem_map_joined {cs : List Char} : '.' ∉ cs.map joined ∧ '-' ∉ cs.map joined := by
  simp only [List.mem_map, not_exists, not_and]
  exact ⟨fun c _ => (joined_ne c).1, fun c _ => (joined_ne c).2⟩

theorem slash_not_mem_joined (s : String) : '/' ∉ (lastSegment s).map joined := by
  intro mem
  obtain ⟨c, inside, same⟩ := List.mem_map.mp mem
  have other := not_of_mem_lastPiece inside
  rw [joined] at same
  split at same
  · cases same
  · subst same
    exact absurd other (by decide)

theorem packageOf_isPackageForm (s : String) : IsPackageForm (packageOf s) := by
  rw [Naming.packageOf_eq]
  have kept {d : Char} (ascii : d.toNat < 128) (nonzero : d.toNat ≠ 0) (mark : d.isLower = false)
      (absent : d ∉ (lastSegment s).map joined) :
      d ∉ (Text.lowercase (String.ofList ((lastSegment s).map joined))).toList := by
    intro mem
    have lone : Text.lowerSources d = [d.toNat] := by
      rw [lowerSources_of_ascii ascii (by rintro rfl; cases mark), mark, if_neg Bool.false_ne_true]
    have source := Text.mem_of_mem_lowercase ascii nonzero lone mem
    rw [String.toList_ofList] at source
    exact absent source
  exact {
    slash := kept (by decide) (by decide) (by decide) (slash_not_mem_joined s)
    dot := kept (by decide) (by decide) (by decide) not_mem_map_joined.1
    dash := kept (by decide) (by decide) (by decide) not_mem_map_joined.2
    small := fun _ => Text.lowerChar_of_mem_lowercase }

theorem packageOf_eq_empty_iff : packageOf s = "" ↔ ∀ c ∈ s.toList, c = '/' := by
  rw [Naming.packageOf_eq, Text.lowercase_eq_empty_iff, String.ofList_eq_empty_iff,
    List.map_eq_nil_iff, lastSegment, lastPiece_eq_nil_iff]
  simp only [decide_eq_true_eq]

theorem packageOf_append_of_forall {after : String} (slashes : ∀ c ∈ after.toList, c = '/') :
    packageOf (s ++ after) = packageOf s := by
  rw [Naming.packageOf_eq, lastSegment, String.toList_append,
    lastPiece_append_of_forall (by simpa using slashes), Naming.packageOf_eq, lastSegment]

theorem packageOf_append {before : String} (named : ∃ c ∈ s.toList, c ≠ '/')
    (last : before.toList.getLast? = some '/') : packageOf (before ++ s) = packageOf s := by
  obtain ⟨front, split⟩ := List.getLast?_eq_some_iff.mp last
  rw [Naming.packageOf_eq, lastSegment, String.toList_append, split, List.append_assoc,
    List.singleton_append, lastPiece_append (decide_eq_true rfl) (by simpa using named),
    Naming.packageOf_eq, lastSegment]

/-- A package name has no slash, dot or dash and no capital of ASCII, and it is empty for
    identifiers of slashes only. Neither slashes behind an identifier nor anything that ends in a
    slash before it makes a difference, and a package name is its own package name. -/
theorem packageOf_normalises (s : String) :
    (∀ c ∈ (packageOf s).toList, c ≠ '/' ∧ c ≠ '.' ∧ c ≠ '-' ∧ c.isUpper = false) ∧
    (packageOf s = "" ↔ ∀ c ∈ s.toList, c = '/') ∧
    (∀ after : String, (∀ c ∈ after.toList, c = '/') → packageOf (s ++ after) = packageOf s) ∧
    ((∃ c ∈ s.toList, c ≠ '/') →
      ∀ before : String, before.toList.getLast? = some '/' →
        packageOf (before ++ s) = packageOf s) ∧
    packageOf (packageOf s) = packageOf s := by
  have form := packageOf_isPackageForm s
  refine ⟨?_, packageOf_eq_empty_iff, fun _ => packageOf_append_of_forall,
    fun named _ => packageOf_append named, form.packageOf_eq⟩
  intro c mem
  refine ⟨?_, ?_, ?_, form.isUpper_eq mem⟩
  · rintro rfl
    exact form.slash mem
  · rintro rfl
    exact form.dot mem
  · rintro rfl
    exact form.dash mem

/-- A segment with a dot and a final sigma, behind another one and before a slash. -/
theorem packageOf_normalises_greek :
    (∀ c ∈ "/".toList, c = '/') ∧ packageOf ("Api.ΛΌΓΟΣ" ++ "/") = packageOf "Api.ΛΌΓΟΣ" ∧
      (∃ c ∈ "Api.ΛΌΓΟΣ".toList, c ≠ '/') ∧ "acme.org/".toList.getLast? = some '/' ∧
      packageOf ("acme.org/" ++ "Api.ΛΌΓΟΣ") = packageOf "Api.ΛΌΓΟΣ" ∧
      packageOf "Api.ΛΌΓΟΣ" = "api_λόγος" ∧ packageOf "api_λόγος" = "api_λόγος" := by
  have slashes : ∀ c ∈ "/".toList, c = '/' := fun c mem => List.mem_singleton.mp mem
  have named : ∃ c ∈ "Api.ΛΌΓΟΣ".toList, c ≠ '/' := ⟨'A', by decide, by decide⟩
  have last : "acme.org/".toList.getLast? = some '/' := by decide
  have name : packageOf "Api.ΛΌΓΟΣ" = "api_λόγος" := by decide +kernel
  obtain ⟨-, -, behind, front, again⟩ := packageOf_normalises "Api.ΛΌΓΟΣ"
  refine ⟨slashes, behind _ slashes, named, last, front named _ last, name, ?_⟩
  rw [name] at again
  exact again

end ClientGen.Naming
