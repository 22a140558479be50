import ClientGen.Proofs.Naming.NormalForms
import ClientGen.Proofs.Target.Escaping

/-! # Identifiers

What is done about reserved names keeps apart what the conversion keeps apart, so names of one
convention have different identifiers; and the members that clients declare themselves are the
identifiers of few names.
-/

namespace ClientGen.Target

open Naming

variable {style : Style} {a b name : String}

theorem Dart.identifier_inj (ha : style.Follows a) (hb : style.Follows b)
    (same : Dart.identifier a = Dart.identifier b) : a = b := by
  rw [Dart.identifier_eq, Dart.identifier_eq] at same
  exact Escaping.identifier_inj ha hb same

theorem Python.identifier_inj (ha : style.Follows a) (hb : style.Follows b)
    (same : Python.identifier a = Python.identifier b) : a = b := by
  rw [Python.identifier_eq, Python.identifier_eq] at same
  exact Escaping.identifier_inj ha hb same

theorem Rust.identifier_inj (ha : style.Follows a) (hb : style.Follows b)
    (same : Rust.identifier a = Rust.identifier b) : a = b := by
  rw [Rust.identifier_eq, Rust.identifier_eq] at same
  exact Escaping.identifier_inj ha hb same

theorem Dart.paramName_inj (ha : style.Follows a) (hb : style.Follows b)
    (same : Dart.paramName a = Dart.paramName b) : a = b := by
  rw [Dart.paramName_eq, Dart.paramName_eq] at same
  exact Escaping.identifier_inj ha hb same

theorem Go.paramName_inj (ha : style.Follows a) (hb : style.Follows b)
    (same : Go.paramName a = Go.paramName b) : a = b := by
  rw [Go.paramName_eq, Go.paramName_eq] at same
  exact Escaping.identifier_inj ha hb same

/-- A character of one kind and then letters and digits of ASCII. -/
def IsWord (start : Char → Bool) (name : String) : Prop :=
  ∃ c cs, name = String.ofList (c :: cs) ∧ start c = true ∧ ∀ d ∈ cs, d.isAlphanum = true

theorem isWord_iff_follows (style : Style) (letters : style.continues = Char.isAlphanum) :
    IsWord style.starts name ↔ style.Follows name := by
  constructor
  · rintro ⟨c, cs, rfl, start, rest⟩
    refine .intro start (fun d mem => letters ▸ rest d mem) fun last => ?_
    exact absurd (rest '_' (List.mem_of_getLast? last)) (by decide)
  · rintro ⟨start, rest, -⟩
    exact ⟨_, _, rfl, start, fun d mem => letters ▸ rest d mem⟩

/-- Different words have different identifiers in every language if both start with a capital, or
    both with a small letter. Runs of capitals, digits and reserved words make no exceptions. -/
theorem identifiers_apart (alike : IsWord Char.isUpper a ∧ IsWord Char.isUpper b ∨
      IsWord Char.isLower a ∧ IsWord Char.isLower b) (different : a ≠ b) :
    Python.identifier a ≠ Python.identifier b ∧
      Rust.identifier a ≠ Rust.identifier b ∧
      Dart.identifier a ≠ Dart.identifier b ∧
      Dart.paramName a ≠ Dart.paramName b ∧
      Go.paramName a ≠ Go.paramName b ∧
      upperCamel a ≠ upperCamel b := by
  obtain ⟨style, ha, hb⟩ : ∃ style : Style, style.Follows a ∧ style.Follows b := by
    obtain ⟨ha, hb⟩ | ⟨ha, hb⟩ := alike
    · exact ⟨.pascal, (isWord_iff_follows .pascal rfl).mp ha, (isWord_iff_follows .pascal rfl).mp hb⟩
    · exact ⟨.camel, (isWord_iff_follows .camel rfl).mp ha, (isWord_iff_follows .camel rfl).mp hb⟩
  exact ⟨mt (Python.identifier_inj ha hb) different, mt (Rust.identifier_inj ha hb) different,
    mt (Dart.identifier_inj ha hb) different, mt (Dart.paramName_inj ha hb) different,
    mt (Go.paramName_inj ha hb) different, mt (upperCamel_inj ha hb) different⟩

/-- An acronym and a word with the same letters. -/
theorem identifiers_apart_acronym :
    IsWord Char.isUpper "GetURL2" ∧ IsWord Char.isUpper "GetUrl2" ∧ "GetURL2" ≠ "GetUrl2" ∧
      Python.identifier "GetURL2" = "get_u_r_l2" ∧ Python.identifier "GetUrl2" = "get_url2" ∧
      Python.identifier "GetURL2" ≠ Python.identifier "GetUrl2" := by
  have acronym : IsWord Char.isUpper "GetURL2" :=
    ⟨'G', "etURL2".toList, by decide, by decide, List.all_eq_true.mp (by decide)⟩
  have word : IsWord Char.isUpper "GetUrl2" :=
    ⟨'G', "etUrl2".toList, by decide, by decide, List.all_eq_true.mp (by decide)⟩
  have different : "GetURL2" ≠ "GetUrl2" := by decide
  exact ⟨acronym, word, different, by decide +kernel, by decide +kernel,
    (identifiers_apart (.inl ⟨acronym, word⟩) different).1⟩

theorem Dart.identifier_eq_close_iff (name : String) :
    Dart.identifier name = "close" ↔ name = "close" ∨ name = "Close" := by
  rw [Dart.identifier_eq, Dart.identifiers.identifier_eq_plain_iff map_fst_underscored (by decide)
    ⟨by decide, by decide⟩]
  have simple : Simple 'c' := simple_of_isLower (by decide) (by decide)
  have ascii : Text.Ascii ['l', 'o', 's', 'e'] := by decide
  exact lowerCamel_eq_iff simple ascii

theorem Dart.identifier_eq_rpc_iff (name : String) :
    Dart.identifier name = "_rpc" ↔ name = "_rpc" := by
  rw [Dart.identifier_eq, Dart.identifiers.identifier_eq_plain_iff map_fst_underscored (by decide)
    ⟨by decide, by decide⟩]
  have ascii : Text.Ascii ['r', 'p', 'c'] := by decide
  exact lowerCamel_eq_underscore_iff ascii

theorem Dart.lowerCamel_identifier : lowerCamel (Dart.identifier name) = Dart.identifier name := by
  rw [Dart.identifier_eq]
  obtain ⟨-, same⟩ | ⟨-, mem⟩ := Dart.identifiers.escape_cases (Dart.identifiers.convert name)
  · rw [Escaping.identifier, same]
    exact lowerCamel_lowerCamel name
  · have small : ∀ entry ∈ Dart.identifiers.replaced,
        entry.2.toList.head?.any Char.isLower = true := by decide +kernel
    have written := small _ mem
    rw [Escaping.identifier, lowerCamel_eq_self written]

theorem Python.identifier_eq_init_iff (name : String) :
    Python.identifier name = "__init__" ↔ name = "__init__" ∨ name = "_Init__" := by
  rw [Python.identifier_eq, Escaping.identifier_eq_word_iff (by decide)
    (by decide)]
  exact snakeCase_eq_init_iff

theorem Python.identifier_eq_rpc_iff (name : String) :
    Python.identifier name = "_rpc" ↔ name = "_rpc" := by
  rw [Python.identifier_eq, Python.identifiers.identifier_eq_plain_iff map_fst_underscored (by decide)
    ⟨by decide, by decide⟩]
  have simple : SimpleWord ['r', 'p', 'c'] := simpleWord_of_all (by decide)
  exact snakeCase_eq_underscore_iff simple

theorem Rust.identifier_eq_new_iff (name : String) :
    Rust.identifier name = "new" ↔ name = "new" ∨ name = "New" := by
  rw [Rust.identifier_eq, Rust.identifiers.identifier_eq_plain_iff Rust.words_eq (by decide)
    ⟨by decide, by decide⟩]
  have simple : SimpleWord ['n', 'e', 'w'] := simpleWord_of_all (by decide)
  exact snakeCase_eq_word_iff simple

theorem Rust.identifier_eq_rpc_iff (name : String) :
    Rust.identifier name = "rpc" ↔ name = "rpc" ∨ name = "Rpc" := by
  rw [Rust.identifier_eq, Rust.identifiers.identifier_eq_plain_iff Rust.words_eq (by decide)
    ⟨by decide, by decide⟩]
  have simple : SimpleWord ['r', 'p', 'c'] := simpleWord_of_all (by decide)
  exact snakeCase_eq_word_iff simple

theorem Go.upperCamel_ne_rpc : upperCamel name ≠ "rpc" := by
  intro same
  have capital := upperCamel_upperCamel name
  rw [same] at capital
  exact absurd capital (by decide +kernel)

end ClientGen.Target
