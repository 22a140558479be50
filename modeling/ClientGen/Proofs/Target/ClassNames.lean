import ClientGen.Proofs.Target.Escaping
import ClientGen.Proofs.Target.Symbols

/-! # Names of classes

Types and enumerations are named in upper camel case in every language: the first character becomes
a capital and the rest stays as it is. Reserved words are not replaced. Most of them start with a
small letter, so no name becomes one of them; the few that start with a capital or an underscore are
what one or two names become. An underscore in front is never a capital.
-/

namespace ClientGen.Target

open Naming Template

/-- Words that are no names of types: those that fields are kept from, and the word for the type
    that is being defined. -/
def Rust.typeKeywords : List String :=
  nonRawKeywords ++ keywords ++ ["Self"]

/-- Whether a name can be that of a type or of a variant. -/
def Rust.isTypeName (name : String) : Bool :=
  isIdentifier name && !typeKeywords.contains name

/-- Whether a name is visible outside of its package: it starts with a capital. -/
def Go.isExported (name : String) : Bool :=
  name.toList.head?.any Char.isUpper

section Words

variable {c d : Char} {cs : List Char} {name word : String} {words : List String}

theorem toUpper_eq_iff (ascii : c.toNat < 128) (ascii' : d.toNat < 128) (large : d.isLower = false) :
    c.toUpper = d ↔ c = d ∨ c = d.toLower := by
  constructor
  · rintro rfl
    cases small : c.isLower with
    | true => exact .inr (toLower_toUpper small).symm
    | false => exact .inl (toUpper_eq_self ascii small).symm
  · rintro (rfl | rfl)
    · exact toUpper_eq_self ascii large
    · cases upper : d.isUpper with
      | true => exact toUpper_toLower upper
      | false => rw [toLower_eq_self ascii' upper, toUpper_eq_self ascii' large]

theorem isStart_toUpper (h : (c.isAlpha || c == '_') = true) :
    (c.toUpper.isAlpha || c.toUpper == '_') = true ∧ c.toUpper.isLower = false := by
  cases small : c.isLower with
  | true =>
      have upper := isUpper_toUpper small
      rw [isAlpha_of_isUpper upper, Bool.true_or]
      exact ⟨rfl, isLower_eq_false upper⟩
  | false =>
      rw [toUpper_eq_self (ascii_of_isPart (isPart_of_isStart h)) small]
      exact ⟨h, small⟩

theorem isUpper_toUpper_iff (h : (c.isAlpha || c == '_') = true) :
    c.toUpper.isUpper = true ↔ c ≠ '_' := by
  cases small : c.isLower with
  | true => exact iff_of_true (isUpper_toUpper small) (ne_of_isLower small).2
  | false =>
      rw [toUpper_eq_self (ascii_of_isPart (isPart_of_isStart h)) small]
      constructor
      · rintro upper rfl
        exact absurd upper (by decide)
      · intro letter
        have alpha : (c.isUpper || c.isLower) = true := by
          rwa [beq_eq_false_iff_ne.mpr letter, Bool.or_false] at h
        rwa [small, Bool.or_false] at alpha

/-- Whether a word starts with a small letter. -/
def startsSmall (word : String) : Bool :=
  word.toList.head?.any Char.isLower

theorem exists_upperCamel (h : isIdentifier name = true) :
    ∃ c cs, name = String.ofList (c :: cs) ∧ (c.isAlpha || c == '_') = true ∧
      (∀ d ∈ cs, (d.isAlphanum || d == '_') = true) ∧
      upperCamel name = String.ofList (c.toUpper :: cs) := by
  obtain ⟨c, cs, rfl⟩ := exists_of_isIdentifier h
  obtain ⟨start, rest⟩ := isIdentifier_ofList.mp h
  exact ⟨c, cs, rfl, start, rest, upperCamel_ofList (ascii_of_isPart (isPart_of_isStart start))⟩

theorem isIdentifier_upperCamel (h : isIdentifier name = true) :
    isIdentifier (upperCamel name) = true := by
  obtain ⟨c, cs, -, start, rest, image⟩ := exists_upperCamel h
  rw [image]
  exact isIdentifier_ofList.mpr ⟨(isStart_toUpper start).1, rest⟩

theorem startsSmall_upperCamel (h : isIdentifier name = true) :
    startsSmall (upperCamel name) = false := by
  obtain ⟨c, cs, -, start, -, image⟩ := exists_upperCamel h
  rw [image, startsSmall, String.toList_ofList]
  exact (isStart_toUpper start).2

theorem isExported_upperCamel_iff (h : isIdentifier name = true) :
    Go.isExported (upperCamel name) = true ↔ name.toList.head? ≠ some '_' := by
  obtain ⟨c, cs, rfl, start, -, image⟩ := exists_upperCamel h
  rw [image, Go.isExported, String.toList_ofList, String.toList_ofList, List.head?_cons,
    List.head?_cons, Option.some_inj.ne]
  exact isUpper_toUpper_iff start

/-- A word that does not start small is what it and its lower camel case become. -/
theorem upperCamel_eq_iff (h : isIdentifier name = true) (formed : isIdentifier word = true)
    (large : startsSmall word = false) :
    upperCamel name = word ↔ name = word ∨ name = lowerCamel word := by
  obtain ⟨c, cs, rfl, start, -, image⟩ := exists_upperCamel h
  obtain ⟨d, ds, rfl⟩ := exists_of_isIdentifier formed
  have ascii := ascii_of_isPart (isPart_of_isStart start)
  have ascii' := ascii_of_isPart (isPart_of_isStart (isIdentifier_ofList.mp formed).1)
  rw [startsSmall, String.toList_ofList] at large
  rw [image, lowerCamel_ofList ascii', String.ofList_inj, String.ofList_inj, String.ofList_inj,
    List.cons.injEq, List.cons.injEq, List.cons.injEq, toUpper_eq_iff ascii ascii' large,
    or_and_right]

/-- The names that become one of the words in upper camel case. -/
def spellings (words : List String) : List String :=
  (words.filter (!startsSmall ·)).flatMap fun word => [word, lowerCamel word]

theorem upperCamel_mem_iff (h : isIdentifier name = true)
    (formed : ∀ word ∈ words, isIdentifier word = true) :
    upperCamel name ∈ words ↔ name ∈ spellings words := by
  simp only [spellings, List.mem_flatMap, List.mem_filter, List.mem_cons, List.not_mem_nil,
    or_false, Bool.not_eq_true']
  constructor
  · intro mem
    have large := startsSmall_upperCamel h
    exact ⟨_, ⟨mem, large⟩, (upperCamel_eq_iff h (formed _ mem) large).mp rfl⟩
  · rintro ⟨word, ⟨mem, large⟩, spelt⟩
    rwa [(upperCamel_eq_iff h (formed word mem) large).mpr spelt]

end Words

section Languages

variable {name : String}

theorem upperCamel_mem_pythonKeywords_iff (h : isIdentifier name = true) :
    upperCamel name ∈ Python.keywords ↔
      name ∈ ["False", "false", "None", "none", "True", "true"] := by
  have spelt : spellings Python.keywords = ["False", "false", "None", "none", "True", "true"] := by
    decide
  rw [← spelt]
  exact upperCamel_mem_iff h (by decide)

theorem upperCamel_not_mem_dartKeywords (h : isIdentifier name = true) :
    upperCamel name ∉ Dart.keywords := by
  have spelt : spellings Dart.keywords = [] := by decide +kernel
  rw [upperCamel_mem_iff h (by decide +kernel), spelt]
  exact List.not_mem_nil

theorem isTypeName_upperCamel_iff (h : isIdentifier name = true) :
    Rust.isTypeName (upperCamel name) = true ↔ name ∉ ["_", "Self", "self"] := by
  have spelt : spellings Rust.typeKeywords = ["_", "_", "Self", "self"] := by decide
  have reserved : upperCamel name ∈ Rust.typeKeywords ↔ name ∈ ["_", "Self", "self"] := by
    rw [upperCamel_mem_iff h (by decide +kernel), spelt, List.mem_cons, or_iff_right_of_imp]
    rintro rfl
    exact List.mem_cons_self
  rw [Rust.isTypeName, isIdentifier_upperCamel h, Bool.true_and, Bool.not_eq_true',
    List.contains_eq_mem, decide_eq_false_iff_not, reserved]

/-- The name of a class in Python, Dart and Rust, and an exported name in Go, is the given name in
    upper camel case, which is an identifier if the name is one. It can be used as the language asks
    if the name is not one of the few that become a reserved word, or, in Go, does not start with an
    underscore. -/
theorem classNames_usable_iff (h : isIdentifier name = true) :
    isIdentifier (upperCamel name) = true ∧
      (Python.helpers.function? "pyClassName" = some (Filters.onText upperCamel) ∧
        (upperCamel name ∉ Python.keywords ↔
          name ∉ ["False", "false", "None", "none", "True", "true"])) ∧
      (Rust.helpers.function? "rustClassName" = some (Filters.onText upperCamel) ∧
        (Rust.isTypeName (upperCamel name) = true ↔ name ∉ ["_", "Self", "self"])) ∧
      (Dart.helpers.function? "dartClassName" = some (Filters.onText upperCamel) ∧
        upperCamel name ∉ Dart.keywords) ∧
      (∀ sdk, (Go.helpers sdk).function? "goExportedName" = some (Filters.onText upperCamel)) ∧
        (Go.isExported (upperCamel name) = true ↔ name.toList.head? ≠ some '_') :=
  ⟨isIdentifier_upperCamel h, ⟨rfl, not_congr (upperCamel_mem_pythonKeywords_iff h)⟩,
    ⟨rfl, isTypeName_upperCamel_iff h⟩, ⟨rfl, upperCamel_not_mem_dartKeywords h⟩,
    fun _ => rfl, isExported_upperCamel_iff h⟩

/-- A word that is reserved in several languages, but not as the name of a class. -/
theorem classNames_usable_class :
    isIdentifier "class" = true ∧ upperCamel "class" ∉ Python.keywords ∧
      Rust.isTypeName (upperCamel "class") = true ∧ upperCamel "class" ∉ Dart.keywords ∧
      Go.isExported (upperCamel "class") = true := by
  have formed : isIdentifier "class" = true := by decide
  obtain ⟨-, ⟨-, python⟩, ⟨-, rust⟩, ⟨-, dart⟩, -, go⟩ := classNames_usable_iff formed
  exact ⟨formed, python.mpr (by decide), rust.mpr (by decide), dart, go.mpr (by decide)⟩

/-- Accepted types with a class that Python cannot name, and names that Rust and Go cannot use. -/
theorem classNames_usable_none :
    let types : Types := { package := "ledger", types := [{ name := "none" }] }
    (Check.types types "types.json").ok = true ∧
      (∃ target, builtin "python" {} = .ok target ∧
        target.emitTypes types = .ok (Fragment.source (Python.symbolForm.file {} types)) ∧
        Fragment.declared (Python.symbolForm.file {} types) = ["None"]) ∧
      isIdentifier "none" = true ∧ upperCamel "none" = "None" ∧ "None" ∈ Python.keywords ∧
      isIdentifier "self" = true ∧ Rust.isTypeName (upperCamel "self") = false ∧
      isIdentifier "_id" = true ∧ Go.isExported (upperCamel "_id") = false := by
  intro types
  obtain ⟨target, built, describes⟩ := Python.target_describes Sdk.default_check
  have names : Fragment.declared (Python.symbolForm.file {} types) = ["None"] := by
    rw [SymbolForm.declared_file]
    decide +kernel
  refine ⟨by decide, ⟨target, built, ?_, names⟩, by decide, by decide +kernel, by decide,
    by decide, by decide +kernel, by decide, by decide⟩
  rw [describes.emitTypes]
  exact congrArg _ (Python.symbolForm.source_file {} types).symm

end Languages

end ClientGen.Target
