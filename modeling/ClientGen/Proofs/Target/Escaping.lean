import ClientGen.Proofs.Lookup
import ClientGen.Proofs.Naming.Reserved
import ClientGen.Target.Dart
import ClientGen.Target.Go
import ClientGen.Target.Python
import ClientGen.Target.Rust
import Mathlib.Data.List.Nodup

/-! # Reserved words

A name is converted to the convention of a language, and a word that the language reserves is
replaced by one that it does not. No replacement is itself a word that is replaced, so identifiers
are never reserved, and two names become one identifier only if their conversions are the same or
the one is what the other is replaced by.
-/

namespace ClientGen.Target

open Naming

/-- Whether a name is a letter or an underscore and then letters, digits and underscores. -/
def isIdentifier (name : String) : Bool :=
  match name.toList with
  | [] => false
  | c :: cs => (c.isAlpha || c == '_') && cs.all fun d => d.isAlphanum || d == '_'

section Conversions

variable {c : Char} {cs : List Char} {name : String}

theorem isIdentifier_ofList :
    isIdentifier (String.ofList (c :: cs)) = true ↔
      (c.isAlpha || c == '_') = true ∧ ∀ d ∈ cs, (d.isAlphanum || d == '_') = true := by
  rw [isIdentifier, String.toList_ofList, Bool.and_eq_true, List.all_eq_true]

theorem exists_of_isIdentifier (h : isIdentifier name = true) :
    ∃ c cs, name = String.ofList (c :: cs) := by
  rw [isIdentifier] at h
  split at h
  · cases h
  · rename_i c cs chars
    exact ⟨c, cs, by rw [← chars, String.ofList_toList]⟩

theorem ascii_of_isPart (h : (c.isAlphanum || c == '_') = true) : c.toNat < 128 := by
  rw [Bool.or_eq_true, beq_iff_eq] at h
  obtain alphanumeric | rfl := h
  · exact Style.pascal.ascii_of_continues alphanumeric
  · decide

theorem isPart_of_isStart (h : (c.isAlpha || c == '_') = true) :
    (c.isAlphanum || c == '_') = true := by
  rw [Char.isAlphanum, Bool.or_right_comm, h, Bool.true_or]

theorem isAlpha_of_isUpper (upper : c.isUpper = true) : c.isAlpha = true :=
  Bool.or_eq_true_iff.mpr (.inl upper)

theorem isAlpha_of_isLower (small : c.isLower = true) : c.isAlpha = true :=
  Bool.or_eq_true_iff.mpr (.inr small)

theorem isStart_toLower (h : (c.isAlpha || c == '_') = true) :
    (c.toLower.isAlpha || c.toLower == '_') = true := by
  cases upper : c.isUpper with
  | true => rw [isAlpha_of_isLower (isLower_toLower upper), Bool.true_or]
  | false => rwa [toLower_eq_self (ascii_of_isPart (isPart_of_isStart h)) upper]

theorem isPart_toLower (h : (c.isAlphanum || c == '_') = true) :
    (c.toLower.isAlphanum || c.toLower == '_') = true := by
  cases upper : c.isUpper with
  | true => exact isPart_of_isStart (by rw [isAlpha_of_isLower (isLower_toLower upper), Bool.true_or])
  | false => rwa [toLower_eq_self (ascii_of_isPart h) upper]

theorem isIdentifier_lowerCamel (h : isIdentifier name = true) :
    isIdentifier (lowerCamel name) = true := by
  obtain ⟨c, cs, rfl⟩ := exists_of_isIdentifier h
  obtain ⟨start, rest⟩ := isIdentifier_ofList.mp h
  rw [lowerCamel_ofList (ascii_of_isPart (isPart_of_isStart start))]
  exact isIdentifier_ofList.mpr ⟨isStart_toLower start, rest⟩

theorem isIdentifier_snakeCase (h : isIdentifier name = true) :
    isIdentifier (snakeCase name) = true := by
  obtain ⟨c, cs, rfl⟩ := exists_of_isIdentifier h
  obtain ⟨start, rest⟩ := isIdentifier_ofList.mp h
  have ascii : Text.Ascii (c :: cs) := List.forall_mem_cons.mpr
    ⟨ascii_of_isPart (isPart_of_isStart start), fun d mem => ascii_of_isPart (rest d mem)⟩
  rw [snakeCase_ofList ascii]
  refine isIdentifier_ofList.mpr ⟨isStart_toLower start, fun d mem => ?_⟩
  obtain ⟨e, marked, rfl⟩ := List.mem_map.mp mem
  obtain rfl | there := mem_of_mem_markCapitals marked
  · decide
  · exact isPart_toLower (rest e there)

end Conversions

section Marks

variable {a b : String}

theorem ne_append_underscore (h : Plain a) : b ++ "_" ≠ a := by
  rintro rfl
  refine h.ending ?_
  simp

theorem ne_raw_append (h : '#' ∉ a.toList) : "r#" ++ b ≠ a := by
  rintro rfl
  simp at h

end Marks

/-- How a language makes identifiers of names. -/
structure Escaping where
  convert : String → String
  /-- The words that are replaced, and what they are replaced by. -/
  replaced : List (String × String)
  words_nodup : (replaced.map (·.1)).Nodup
  replacements_nodup : (replaced.map (·.2)).Nodup
  /-- No word is what another one is replaced by. -/
  disjoint : ∀ word ∈ replaced.map (·.1), word ∉ replaced.map (·.2)
  /-- Replacements have a mark that names of a convention have not. -/
  marked : ∀ entry ∈ replaced, ¬Plain entry.2
  convert_plain {style : Style} {name : String} : style.Follows name → Plain (convert name)
  convert_inj {style : Style} {a b : String} :
    style.Follows a → style.Follows b → convert a = convert b → a = b

namespace Escaping

variable (e : Escaping) {style : Style} {a b word other : String}

def words : List String :=
  e.replaced.map (·.1)

def escape (word : String) : String :=
  (e.replaced.lookup word).getD word

def identifier (name : String) : String :=
  e.escape (e.convert name)

/-- Two names whose conversions are the same, or one of which is converted to a word and the other
    to its replacement. -/
def Meet (a b : String) : Prop :=
  e.convert a = e.convert b ∨ (e.convert a, e.convert b) ∈ e.replaced
    ∨ (e.convert b, e.convert a) ∈ e.replaced

variable {e}

theorem escape_of_not_mem (free : word ∉ e.words) : e.escape word = word := by
  rw [escape, List.lookup_eq_none_iff.mpr, Option.getD_none]
  intro entry mem
  rw [bne_iff_ne]
  rintro rfl
  exact free (List.mem_map_of_mem mem)

theorem escape_of_mem (mem : (word, other) ∈ e.replaced) : e.escape word = other := by
  obtain ⟨before, behind, split⟩ := List.append_of_mem mem
  have first : word ∉ before.map (·.1) := by
    have nodup := e.words_nodup
    rw [split, List.map_append, List.map_cons, List.nodup_append'] at nodup
    exact fun earlier => nodup.2.2 earlier List.mem_cons_self
  have found : e.replaced.lookup word = some other := by
    refine List.lookup_eq_some_iff.mpr ⟨before, behind, split, fun entry earlier => ?_⟩
    rw [bne_iff_ne]
    rintro rfl
    exact first (List.mem_map_of_mem earlier)
  rw [escape, found, Option.getD_some]

theorem escape_cases (e : Escaping) (word : String) :
    (word ∉ e.words ∧ e.escape word = word) ∨
      (word ∈ e.words ∧ (word, e.escape word) ∈ e.replaced) := by
  by_cases there : word ∈ e.words
  · obtain ⟨⟨_, other⟩, mem, rfl⟩ := List.mem_map.mp there
    exact .inr ⟨there, by rwa [escape_of_mem mem]⟩
  · exact .inl ⟨there, escape_of_not_mem there⟩

theorem not_mem_words_of_mem (mem : (word, other) ∈ e.replaced) : other ∉ e.words :=
  fun reserved => e.disjoint _ reserved (List.mem_map_of_mem mem)

theorem escape_not_mem_words : e.escape word ∉ e.words := by
  obtain ⟨free, same⟩ | ⟨-, mem⟩ := e.escape_cases word
  · rwa [same]
  · exact not_mem_words_of_mem mem

theorem identifier_not_mem {words : List String} (listed : e.words = words) :
    e.identifier a ∉ words :=
  listed ▸ escape_not_mem_words

theorem not_mem_replacements (plain : Plain word) : word ∉ e.replaced.map (·.2) := by
  rintro mem
  obtain ⟨entry, there, rfl⟩ := List.mem_map.mp mem
  exact e.marked entry there plain

/-- A word that is neither replaced nor a replacement is the identifier of what is converted
    to it. -/
theorem identifier_eq_word_iff (free : word ∉ e.words) (own : word ∉ e.replaced.map (·.2)) :
    e.identifier a = word ↔ e.convert a = word := by
  obtain ⟨-, same⟩ | ⟨reserved, mem⟩ := e.escape_cases (e.convert a)
  · rw [identifier, same]
  · constructor
    · rintro rfl
      exact absurd (List.mem_map_of_mem mem) own
    · rintro rfl
      exact absurd reserved free

theorem identifier_eq_plain_iff (e : Escaping) {words : List String} (listed : e.words = words)
    (free : word ∉ words) (plain : Plain word) :
    e.identifier a = word ↔ e.convert a = word :=
  identifier_eq_word_iff (listed ▸ free) (not_mem_replacements plain)

theorem escape_eq_iff :
    e.escape a = e.escape b ↔ a = b ∨ (a, b) ∈ e.replaced ∨ (b, a) ∈ e.replaced := by
  constructor
  · intro same
    obtain ⟨-, kept⟩ | ⟨-, mem⟩ := e.escape_cases a <;>
      obtain ⟨-, kept'⟩ | ⟨-, mem'⟩ := e.escape_cases b
    · exact .inl (kept.symm.trans (same.trans kept'))
    · rw [← same, kept] at mem'
      exact .inr (.inr mem')
    · rw [same, kept'] at mem
      exact .inr (.inl mem)
    · rw [same] at mem
      exact .inl (congrArg Prod.fst
        (List.inj_on_of_nodup_map e.replacements_nodup mem mem' rfl))
  · rintro (rfl | mem | mem)
    · rfl
    · rw [escape_of_mem mem, escape_of_not_mem (not_mem_words_of_mem mem)]
    · rw [escape_of_mem mem, escape_of_not_mem (not_mem_words_of_mem mem)]

theorem identifier_eq_iff : e.identifier a = e.identifier b ↔ e.Meet a b :=
  escape_eq_iff

/-- What names of a convention are converted to is no replacement. -/
theorem identifier_inj (ha : style.Follows a) (hb : style.Follows b)
    (same : e.identifier a = e.identifier b) : a = b := by
  obtain converted | mem | mem := identifier_eq_iff.mp same
  · exact e.convert_inj ha hb converted
  · exact absurd (e.convert_plain hb) (e.marked _ mem)
  · exact absurd (e.convert_plain ha) (e.marked _ mem)

theorem isIdentifier_identifier (kept : isIdentifier (e.convert a) = true)
    (formed : ∀ entry ∈ e.replaced, isIdentifier entry.2 = true) :
    isIdentifier (e.identifier a) = true := by
  obtain ⟨-, same⟩ | ⟨-, mem⟩ := e.escape_cases (e.convert a)
  · rwa [identifier, same]
  · exact formed _ mem

end Escaping

/-- Words with an underscore behind each of them. -/
def underscored (words : List String) : List (String × String) :=
  words.map fun word => (word, word ++ "_")

section Underscored

variable {words : List String} {name : String} {f : String → String}

theorem lookup_map_words :
    (words.map fun word => (word, f word)).lookup name
      = if words.contains name then some (f name) else none := by
  induction words with
  | nil => rfl
  | cons word rest ih =>
      rw [List.map_cons, lookup_cons_eq, ih, List.contains_cons]
      by_cases same : name = word
      · simp [same]
      · simp [same]

theorem map_fst_underscored : (underscored words).map (·.1) = words := by
  rw [underscored, List.map_map]
  exact List.map_id words

theorem map_snd_underscored : (underscored words).map (·.2) = words.map (· ++ "_") := by
  rw [underscored, List.map_map]
  rfl

theorem nodup_underscored (distinct : words.Nodup) : ((underscored words).map (·.2)).Nodup := by
  rw [map_snd_underscored]
  exact distinct.map fun _ _ same => (String.append_left_inj _).mp same

theorem disjoint_underscored (free : ∀ word ∈ words, word.toList.getLast? ≠ some '_') :
    ∀ word ∈ (underscored words).map (·.1), word ∉ (underscored words).map (·.2) := by
  intro word mem
  rw [map_fst_underscored] at mem
  rw [map_snd_underscored, List.mem_map]
  rintro ⟨other, -, rfl⟩
  exact free _ mem (by simp)

theorem getD_lookup_underscored :
    ((underscored words).lookup name).getD name
      = if words.contains name then name ++ "_" else name := by
  rw [underscored, lookup_map_words]
  split <;> rfl

theorem not_plain_underscored {entry : String × String} (mem : entry ∈ underscored words) :
    ¬Plain entry.2 := by
  obtain ⟨word, -, rfl⟩ := List.mem_map.mp mem
  exact fun plain => ne_append_underscore plain rfl

end Underscored

/-- The escaping that puts an underscore behind reserved words. -/
def Escaping.ofWords (convert : String → String) (words : List String) (distinct : words.Nodup)
    (free : ∀ word ∈ words, word.toList.getLast? ≠ some '_')
    (convert_plain : ∀ {style : Style} {name : String}, style.Follows name → Plain (convert name))
    (convert_inj : ∀ {style : Style} {a b : String}, style.Follows a → style.Follows b →
      convert a = convert b → a = b) : Escaping where
  convert := convert
  replaced := underscored words
  words_nodup := by rwa [map_fst_underscored]
  replacements_nodup := nodup_underscored distinct
  disjoint := disjoint_underscored free
  marked _ := not_plain_underscored
  convert_plain := convert_plain
  convert_inj := convert_inj

def Dart.identifiers : Escaping :=
  .ofWords lowerCamel Dart.keywords (by decide) (by decide)
    Style.Follows.plain_lowerCamel lowerCamel_inj

def Dart.paramNames : Escaping :=
  .ofWords lowerCamel (Dart.keywords ++ ["params"]) (by decide +kernel) (by decide +kernel)
    Style.Follows.plain_lowerCamel lowerCamel_inj

def Go.paramNames : Escaping :=
  .ofWords lowerCamel (Go.keywords ++ Go.boundNames) (by decide +kernel) (by decide +kernel)
    Style.Follows.plain_lowerCamel lowerCamel_inj

def Python.identifiers : Escaping :=
  .ofWords snakeCase Python.keywords (by decide +kernel) (by decide +kernel)
    Style.Follows.plain_snakeCase snakeCase_inj

/-- Words as raw identifiers. -/
def Rust.raw : List (String × String) :=
  Rust.keywords.map fun word => (word, "r#" ++ word)

theorem Rust.words_eq :
    (underscored Rust.nonRawKeywords ++ Rust.raw).map (·.1)
      = Rust.nonRawKeywords ++ Rust.keywords := by
  rw [List.map_append, map_fst_underscored, Rust.raw, List.map_map]
  exact congrArg _ (List.map_id _)

theorem Rust.replacements_eq :
    (underscored Rust.nonRawKeywords ++ Rust.raw).map (·.2)
      = Rust.nonRawKeywords.map (· ++ "_") ++ Rust.keywords.map ("r#" ++ ·) := by
  rw [List.map_append, map_snd_underscored, Rust.raw, List.map_map]
  rfl

theorem Rust.words_nodup : (Rust.nonRawKeywords ++ Rust.keywords).Nodup := by
  decide +kernel

theorem Rust.noHash_words : ∀ word ∈ Rust.nonRawKeywords ++ Rust.keywords, '#' ∉ word.toList := by
  decide +kernel

theorem Rust.replacements_nodup :
    (Rust.nonRawKeywords.map (· ++ "_") ++ Rust.keywords.map ("r#" ++ ·)).Nodup := by
  obtain ⟨nonRaw, raw, -⟩ := List.nodup_append'.mp Rust.words_nodup
  refine List.nodup_append'.mpr ⟨nonRaw.map fun _ _ same => (String.append_left_inj _).mp same,
    raw.map fun _ _ same => (String.append_right_inj _).mp same, ?_⟩
  intro entry mem mem'
  obtain ⟨word, there, rfl⟩ := List.mem_map.mp mem
  obtain ⟨other, -, same⟩ := List.mem_map.mp mem'
  refine ne_raw_append ?_ same
  simpa using Rust.noHash_words word (List.mem_append_left _ there)

def Rust.identifiers : Escaping where
  convert := snakeCase
  replaced := underscored Rust.nonRawKeywords ++ Rust.raw
  words_nodup := by
    rw [Rust.words_eq]
    exact Rust.words_nodup
  replacements_nodup := by
    rw [Rust.replacements_eq]
    exact Rust.replacements_nodup
  disjoint word mem := by
    rw [Rust.words_eq] at mem
    rw [Rust.replacements_eq, List.mem_append, not_or]
    refine ⟨fun mem' => ?_, fun mem' => ?_⟩
    · have marked : ∀ word ∈ Rust.nonRawKeywords.map (· ++ "_"),
          word ∉ Rust.nonRawKeywords ++ Rust.keywords := by
        decide +kernel
      exact marked word mem' mem
    · obtain ⟨other, -, same⟩ := List.mem_map.mp mem'
      exact ne_raw_append (Rust.noHash_words word mem) same
  marked _ mem := by
    obtain nonRaw | raw := List.mem_append.mp mem
    · exact not_plain_underscored nonRaw
    · obtain ⟨word, -, rfl⟩ := List.mem_map.mp raw
      exact fun plain => ne_raw_append plain.noHash rfl
  convert_plain := Style.Follows.plain_snakeCase
  convert_inj := snakeCase_inj

section Languages

variable {name : String}

theorem Dart.identifier_eq : Dart.identifier name = Dart.identifiers.identifier name :=
  getD_lookup_underscored.symm

theorem Python.identifier_eq : Python.identifier name = Python.identifiers.identifier name :=
  getD_lookup_underscored.symm

theorem Go.paramName_eq : Go.paramName name = Go.paramNames.identifier name := by
  have both : (Go.keywords ++ Go.boundNames).contains (lowerCamel name)
      = (Go.keywords.contains (lowerCamel name) || Go.boundNames.contains (lowerCamel name)) :=
    List.contains_append
  rw [Go.paramName, ← both]
  exact getD_lookup_underscored.symm

theorem Rust.identifier_eq : Rust.identifier name = Rust.identifiers.identifier name := by
  simp only [Rust.identifier, Escaping.identifier, Escaping.escape, Rust.identifiers, Rust.raw,
    List.lookup_append, underscored, lookup_map_words]
  split
  · rfl
  · split <;> rfl

theorem Dart.paramName_eq : Dart.paramName name = Dart.paramNames.identifier name := by
  have words : (Dart.keywords ++ ["params"]).contains (lowerCamel name)
      = (Dart.keywords.contains (lowerCamel name) || lowerCamel name == "params") := by
    rw [List.contains_append, List.contains_cons, List.contains_nil, Bool.or_false]
  have escaped : Dart.paramNames.identifier name
      = if (Dart.keywords ++ ["params"]).contains (lowerCamel name) then lowerCamel name ++ "_"
        else lowerCamel name := getD_lookup_underscored
  rw [escaped, words, Dart.paramName, Dart.identifier]
  by_cases reserved : Dart.keywords.contains (lowerCamel name) = true
  · rw [if_pos reserved, reserved, Bool.true_or, if_pos rfl, if_neg]
    exact ne_append_underscore ⟨by decide, by decide⟩
  · rw [if_neg reserved, Bool.eq_false_iff.mpr reserved, Bool.false_or]
    by_cases same : lowerCamel name = "params"
    · rw [if_pos same, same]
      rfl
    · rw [if_neg same, if_neg (by simpa using same)]

theorem Python.identifier_not_mem : Python.identifier name ∉ Python.keywords :=
  Python.identifier_eq ▸ Escaping.identifier_not_mem map_fst_underscored

theorem Dart.identifier_not_mem : Dart.identifier name ∉ Dart.keywords :=
  Dart.identifier_eq ▸ Escaping.identifier_not_mem map_fst_underscored

theorem Dart.paramName_not_mem : Dart.paramName name ∉ Dart.keywords ++ ["params"] :=
  Dart.paramName_eq ▸ Escaping.identifier_not_mem map_fst_underscored

theorem Go.paramName_not_mem : Go.paramName name ∉ Go.keywords ++ Go.boundNames :=
  Go.paramName_eq ▸ Escaping.identifier_not_mem map_fst_underscored

theorem Rust.identifier_not_mem : Rust.identifier name ∉ Rust.nonRawKeywords ++ Rust.keywords :=
  Rust.identifier_eq ▸ Escaping.identifier_not_mem Rust.words_eq

theorem Rust.exists_word (h : isIdentifier name = true) :
    ∃ word, isIdentifier word = true ∧ (Rust.identifier name = word ∨
      word ∈ Rust.keywords ∧ Rust.identifier name = "r#" ++ word) := by
  rw [Rust.identifier_eq, Escaping.identifier]
  obtain ⟨-, same⟩ | ⟨-, mem⟩ := Rust.identifiers.escape_cases (Rust.identifiers.convert name)
  · exact ⟨_, isIdentifier_snakeCase h, .inl same⟩
  · obtain nonRaw | raw := List.mem_append.mp mem
    · have formed : ∀ entry ∈ underscored Rust.nonRawKeywords, isIdentifier entry.2 = true := by
        decide +kernel
      exact ⟨_, formed _ nonRaw, .inl rfl⟩
    · obtain ⟨word, reserved, same⟩ := List.mem_map.mp raw
      have formed : ∀ word ∈ Rust.keywords, isIdentifier word = true := by decide +kernel
      exact ⟨word, formed word reserved, .inr ⟨reserved, (Prod.mk.inj same).2.symm⟩⟩

end Languages

/-- No name becomes a word that the language reserves, whatever its characters; and a name that is
    an identifier becomes one, in Rust perhaps a raw one, but only of a reserved word. -/
theorem identifiers_lawful :
    (∀ name, Python.identifier name ∉ Python.keywords ∧
      Dart.identifier name ∉ Dart.keywords ∧
      (Dart.paramName name ∉ Dart.keywords ∧ Dart.paramName name ≠ "params") ∧
      (Go.paramName name ∉ Go.keywords ∧ Go.paramName name ∉ Go.boundNames) ∧
      (Rust.identifier name ∉ Rust.keywords ∧ Rust.identifier name ∉ Rust.nonRawKeywords)) ∧
    ∀ name, isIdentifier name = true →
      isIdentifier (Python.identifier name) = true ∧
      isIdentifier (Dart.identifier name) = true ∧
      isIdentifier (Dart.paramName name) = true ∧
      isIdentifier (Go.paramName name) = true ∧
      ∃ word, isIdentifier word = true ∧ (Rust.identifier name = word ∨
        word ∈ Rust.keywords ∧ Rust.identifier name = "r#" ++ word) := by
  refine ⟨fun name => ?_, fun name h => ⟨?_, ?_, ?_, ?_, Rust.exists_word h⟩⟩
  · have dart : Dart.paramName name ∉ Dart.keywords ++ ["params"] := Dart.paramName_not_mem
    have go : Go.paramName name ∉ Go.keywords ++ Go.boundNames := Go.paramName_not_mem
    have rust : Rust.identifier name ∉ Rust.nonRawKeywords ++ Rust.keywords :=
      Rust.identifier_not_mem
    rw [List.mem_append, not_or] at dart go rust
    exact ⟨Python.identifier_not_mem, Dart.identifier_not_mem,
      ⟨dart.1, List.ne_of_not_mem_cons dart.2⟩, go, rust.2, rust.1⟩
  · rw [Python.identifier_eq]
    exact Escaping.isIdentifier_identifier (isIdentifier_snakeCase h) (by decide +kernel)
  · rw [Dart.identifier_eq]
    exact Escaping.isIdentifier_identifier (isIdentifier_lowerCamel h) (by decide +kernel)
  · rw [Dart.paramName_eq]
    exact Escaping.isIdentifier_identifier (isIdentifier_lowerCamel h) (by decide +kernel)
  · rw [Go.paramName_eq]
    exact Escaping.isIdentifier_identifier (isIdentifier_lowerCamel h) (by decide +kernel)

theorem identifiers_lawful_type :
    isIdentifier "type" = true ∧
      ∃ word, isIdentifier word = true ∧ (Rust.identifier "type" = word ∨
        word ∈ Rust.keywords ∧ Rust.identifier "type" = "r#" ++ word) := by
  have formed : isIdentifier "type" = true := by decide
  exact ⟨formed, (identifiers_lawful.2 "type" formed).2.2.2.2⟩

end ClientGen.Target
