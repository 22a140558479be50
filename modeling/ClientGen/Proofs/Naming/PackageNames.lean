import ClientGen.Proofs.Naming.Conventions
import ClientGen.Proofs.Naming.Elements
import ClientGen.Proofs.Sdk

/-! # Usable names

Which names of ASCII characters a package can be generated under. A name is taken to snake case,
underscores are put for its dashes, and it is reduced to its last element. What is usable after all
of this can be told from the last element of the name itself.
-/

namespace ClientGen.Sdk

open Naming

variable {c : Char} {cs before element after : List Char} {sdk : Sdk}

/-- Whether a character may stand in the last element of a name. -/
def isNameChar (c : Char) : Bool :=
  c.isAlphanum || c = '-' || c = '_'

/-- The last element of a name that a package can have: letters, digits, dashes and underscores, and
    not dashes and underscores only. -/
structure NamesPackage (element : List Char) : Prop where
  nonempty : element ≠ []
  chars : ∀ c ∈ element, isNameChar c = true
  visible : ∃ c ∈ element, c.isAlphanum = true

/-- What a character of a name becomes in a package name. -/
def packageChar (c : Char) : Char :=
  if c.toLower = '-' then '_' else c.toLower

/-- What a character of a name leaves in a package name, unless it is the first one. -/
def packageChars (c : Char) : List Char :=
  if c.isUpper then ['_', packageChar c] else [packageChar c]

theorem exists_packageChars (c : Char) :
    ∃ mark, packageChars c = mark ++ [packageChar c] ∧ ∀ d ∈ mark, d = '_' := by
  rw [packageChars]
  cases c.isUpper with
  | true => exact ⟨['_'], rfl, List.forall_mem_singleton.mpr rfl⟩
  | false => exact ⟨[], rfl, List.forall_mem_nil _⟩

theorem map_packageChar_markCapitals (cs : List Char) :
    ((markCapitals cs).map Char.toLower).map (fun c => if c = '-' then '_' else c)
      = cs.flatMap packageChars := by
  induction cs with
  | nil => rfl
  | cons c cs ih =>
      rw [markCapitals_cons, List.map_append, List.map_append, ih, List.flatMap_cons, packageChars]
      cases c.isUpper <;> rfl

theorem packageName_eq (ascii : Text.Ascii (c :: cs)) (name : sdk.name = String.ofList (c :: cs)) :
    sdk.packageName = lastElement (String.ofList (packageChar c :: cs.flatMap packageChars)) := by
  rw [packageName, name, snakeCase_ofList ascii, String.toList_ofList, List.map_cons,
    map_packageChar_markCapitals]
  rfl

theorem isSeparator_packageChar (ascii : c.toNat < 128) :
    isSeparator (packageChar c) = isSeparator c :=
  ascii_forall (P := fun c => isSeparator (packageChar c) = isSeparator c) (by decide +kernel) ascii

theorem isSeparator_of_mem_packageChars {d : Char} (ascii : c.toNat < 128)
    (mem : d ∈ packageChars c) : isSeparator d = isSeparator c := by
  have all : ((packageChars c).all fun d => isSeparator d == isSeparator c) = true :=
    ascii_forall
      (P := fun c => ((packageChars c).all fun d => isSeparator d == isSeparator c) = true)
      (by decide +kernel) ascii
  exact eq_of_beq (List.all_eq_true.mp all d mem)

theorem isSeparator_of_mem_flatMap {b : Bool} (ascii : Text.Ascii cs)
    (same : ∀ c ∈ cs, isSeparator c = b) {d : Char} (mem : d ∈ cs.flatMap packageChars) :
    isSeparator d = b := by
  obtain ⟨c, there, mem⟩ := List.mem_flatMap.mp mem
  rw [isSeparator_of_mem_packageChars (ascii c there) mem, same c there]

/-- Characters become separators if and only if they are separators, so the last element of a name
    becomes the last element again. -/
theorem endsIn_packageChars (ascii : Text.Ascii (before ++ element ++ after))
    (h : EndsIn before element after) :
    EndsIn (before.flatMap packageChars) (element.flatMap packageChars)
      (after.flatMap packageChars) := by
  obtain ⟨ascii, asciiAfter⟩ := List.forall_mem_append.mp ascii
  obtain ⟨asciiBefore, asciiElement⟩ := List.forall_mem_append.mp ascii
  refine ⟨?_, fun d mem => isSeparator_of_mem_flatMap asciiElement h.inside mem, fun d last => ?_,
    fun d mem => isSeparator_of_mem_flatMap asciiAfter h.closed mem⟩
  · obtain ⟨c, rest, rfl⟩ := List.exists_cons_of_ne_nil h.nonempty
    obtain ⟨mark, chars, -⟩ := exists_packageChars c
    simp [chars]
  · obtain rfl | ⟨front, c, rfl⟩ := List.eq_nil_or_concat before
    · cases last
    · rw [List.concat_eq_append] at h asciiBefore last
      obtain ⟨mark, chars, -⟩ := exists_packageChars c
      rw [List.flatMap_append, List.flatMap_singleton, chars, ← List.append_assoc,
        List.getLast?_concat, Option.mem_some_iff] at last
      subst last
      rw [isSeparator_packageChar (asciiBefore c (by simp))]
      exact h.opened c (by simp)

theorem isPackageName_ofList :
    isPackageName (String.ofList cs) = (cs.any Char.isAlphanum && cs.all isPackageChar) := by
  rw [isPackageName, String.toList_ofList]

theorem isPackageName_marked {mark : List Char} (marked : ∀ d ∈ mark, d = '_') :
    isPackageName (String.ofList (mark ++ cs)) = isPackageName (String.ofList cs) := by
  have hidden : mark.any Char.isAlphanum = false := by
    refine List.any_eq_false.mpr fun d mem => ?_
    rw [marked d mem]
    decide
  have usable : mark.all isPackageChar = true := by
    refine List.all_eq_true.mpr fun d mem => ?_
    rw [marked d mem]
    decide
  rw [isPackageName_ofList, isPackageName_ofList, List.any_append, List.all_append, hidden, usable,
    Bool.false_or, Bool.true_and]

theorem any_packageChars (ascii : c.toNat < 128) :
    (packageChars c).any Char.isAlphanum = c.isAlphanum :=
  ascii_forall (P := fun c => (packageChars c).any Char.isAlphanum = c.isAlphanum)
    (by decide +kernel) ascii

theorem all_packageChars (ascii : c.toNat < 128) :
    (packageChars c).all isPackageChar = isNameChar c :=
  ascii_forall (P := fun c => (packageChars c).all isPackageChar = isNameChar c)
    (by decide +kernel) ascii

theorem isPackageName_flatMap_iff (ascii : Text.Ascii element) (nonempty : element ≠ []) :
    isPackageName (String.ofList (element.flatMap packageChars)) = true ↔ NamesPackage element := by
  rw [isPackageName_ofList, List.any_flatMap, List.all_flatMap, Bool.and_eq_true, List.any_eq_true,
    List.all_eq_true]
  constructor
  · rintro ⟨⟨c, mem, visible⟩, chars⟩
    refine ⟨nonempty, fun c mem => ?_, c, mem, ?_⟩
    · rw [← all_packageChars (ascii c mem)]
      exact chars c mem
    · rw [← any_packageChars (ascii c mem)]
      exact visible
  · rintro ⟨-, chars, c, mem, visible⟩
    refine ⟨⟨c, mem, ?_⟩, fun c mem => ?_⟩
    · rw [any_packageChars (ascii c mem)]
      exact visible
    · rw [all_packageChars (ascii c mem)]
      exact chars c mem

/-- The first character of a name gets no mark. This can only change the last element if nothing is
    before it, and then it is a package name with the mark if and only if it is one without. -/
theorem exists_endsIn_unmarked (ascii : Text.Ascii (c :: cs))
    (split : c :: cs = before ++ element ++ after) (ends : EndsIn before element after) :
    ∃ before' element' after',
      packageChar c :: cs.flatMap packageChars = before' ++ element' ++ after' ∧
        EndsIn before' element' after' ∧
        isPackageName (String.ofList element')
          = isPackageName (String.ofList (element.flatMap packageChars)) := by
  obtain ⟨mark, chars, marked⟩ := exists_packageChars c
  have images := endsIn_packageChars (split ▸ ascii) ends
  cases before with
  | nil =>
      obtain ⟨d, rest, rfl⟩ := List.exists_cons_of_ne_nil ends.nonempty
      obtain ⟨rfl, rfl⟩ : c = d ∧ cs = rest ++ after := List.cons.inj split
      rw [List.flatMap_cons, chars, List.append_assoc, List.singleton_append] at images ⊢
      refine ⟨[], packageChar c :: rest.flatMap packageChars, after.flatMap packageChars, ?_, ?_,
        (isPackageName_marked marked).symm⟩
      · rw [List.flatMap_append]
        rfl
      · exact { images with
          nonempty := List.cons_ne_nil _ _
          inside := fun d mem => images.inside d (List.mem_append_right _ mem) }
  | cons d front =>
      obtain ⟨rfl, rfl⟩ : c = d ∧ cs = front ++ element ++ after := List.cons.inj split
      rw [List.flatMap_cons, chars, List.append_assoc, List.singleton_append] at images
      refine ⟨packageChar c :: front.flatMap packageChars, element.flatMap packageChars,
        after.flatMap packageChars, ?_, images.of_append, rfl⟩
      rw [List.flatMap_append, List.flatMap_append]
      rfl

/-- A name has a last element that names a package if and only if it yields a package name. -/
theorem isPackageName_lastElement_iff (ascii : Text.Ascii (c :: cs)) :
    isPackageName (lastElement (String.ofList (packageChar c :: cs.flatMap packageChars))) = true
      ↔ NamesPackage (lastOf (String.ofList (c :: cs))) := by
  obtain separators | ⟨before, element, after, split, ends⟩ := exists_endsIn (c :: cs)
  · obtain ⟨mark, chars, -⟩ := exists_packageChars c
    have whole : (c :: cs).flatMap packageChars
        = mark ++ packageChar c :: cs.flatMap packageChars := by
      rw [List.flatMap_cons, chars, List.append_assoc, List.singleton_append]
    have images : ∀ d ∈ packageChar c :: cs.flatMap packageChars, isSeparator d = true := by
      intro d mem
      exact isSeparator_of_mem_flatMap ascii separators (whole ▸ List.mem_append_right _ mem)
    rw [lastElement_of_separators (List.cons_ne_nil _ _) images, lastOf_of_separators separators]
    refine iff_of_false ?_ fun h => h.nonempty rfl
    decide
  · obtain ⟨before', element', after', image, unmarked, same⟩ :=
      exists_endsIn_unmarked ascii split ends
    have asciiElement : Text.Ascii element := by
      intro d mem
      refine ascii d ?_
      rw [split]
      exact List.mem_append_left _ (List.mem_append_right _ mem)
    rw [image, unmarked.lastElement_eq, same, split, ends.lastOf_eq,
      isPackageName_flatMap_iff asciiElement ends.nonempty]

theorem isPackageName_packageName_iff (ascii : Text.Ascii sdk.name.toList) :
    isPackageName sdk.packageName = true ↔ NamesPackage (lastOf sdk.name) := by
  cases chars : sdk.name.toList with
  | nil =>
      have empty : sdk.name = "" := String.toList_eq_nil_iff.mp chars
      rw [packageName, empty]
      exact iff_of_false (by decide) fun h => h.nonempty rfl
  | cons c cs =>
      have name : sdk.name = String.ofList (c :: cs) := by rw [← chars, String.ofList_toList]
      rw [chars] at ascii
      rw [packageName_eq ascii name, isPackageName_lastElement_iff ascii, name]

theorem NamesPackage.not_blank (h : NamesPackage (lastOf sdk.name)) :
    sdk.name.toList.all Text.isBlank = false := by
  obtain ⟨c, mem, visible⟩ := h.visible
  refine List.all_eq_false.mpr ⟨c, mem_of_mem_lastOf mem, fun blank => ?_⟩
  have ascii := Style.pascal.ascii_of_continues visible
  exact ascii_forall (P := fun c => c.isAlphanum = true → Text.isBlank c = true → False)
    (by decide +kernel) ascii visible blank

theorem check_iff (ascii : Text.Ascii sdk.name.toList) :
    sdk.check = .ok () ↔ NamesPackage (lastOf sdk.name) ∧ Semver.check sdk.version = .ok () := by
  rw [check_eq_ok_iff, isPackageName_packageName_iff ascii]
  exact ⟨fun ⟨_, names, version⟩ => ⟨names, version⟩,
    fun ⟨names, version⟩ => ⟨names.not_blank, names, version⟩⟩

/-- A name of ASCII characters is accepted if and only if its last element names a package and the
    version is one, so what stands before the last element does not matter. -/
theorem check_ascii_iff (ascii : Text.Ascii sdk.name.toList) :
    (sdk.check = .ok () ↔ NamesPackage (lastOf sdk.name) ∧ Semver.check sdk.version = .ok ()) ∧
      ∀ name : String, Text.Ascii name.toList → lastOf name = lastOf sdk.name →
        ({ sdk with name }.check = .ok () ↔ sdk.check = .ok ()) := by
  refine ⟨check_iff ascii, fun name ascii' same => ?_⟩
  rw [check_iff ascii, check_iff (show Text.Ascii { sdk with name }.name.toList from ascii'), same]

/-- A name that leads out of a directory, and ends in a separator. -/
theorem check_ascii_outer :
    let sdk : Sdk := { name := "../My-Ledger2/" }
    Text.Ascii sdk.name.toList ∧ Text.Ascii "My-Ledger2".toList ∧
      lastOf "My-Ledger2" = lastOf sdk.name ∧ NamesPackage (lastOf sdk.name) ∧
      sdk.check = .ok () ∧ { sdk with name := "My-Ledger2" }.check = .ok () := by
  intro sdk
  have ascii : Text.Ascii sdk.name.toList := by decide
  have inner : Text.Ascii "My-Ledger2".toList := by decide
  have same : lastOf "My-Ledger2" = lastOf sdk.name := by decide
  have names : NamesPackage (lastOf sdk.name) :=
    ⟨by decide, List.all_eq_true.mp (by decide), List.any_eq_true.mp (by decide)⟩
  obtain ⟨accepted, others⟩ := check_ascii_iff ascii
  have version := version_of_check default_check
  have valid := accepted.mpr ⟨names, version⟩
  exact ⟨ascii, inner, same, names, valid, (others "My-Ledger2" inner same).mpr valid⟩

end ClientGen.Sdk
