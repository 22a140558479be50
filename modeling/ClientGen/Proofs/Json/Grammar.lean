import ClientGen.Proofs.Text.Literal

/-! # The grammar of JSON texts

Which value a text spells, apart from what a reader makes of it. Whole numbers have any size here;
of a number with a fraction or an exponent it is only said that it is floating-point. Each of the
relations joins a text, what stands at its front, and what follows it.
-/

namespace ClientGen.Json

open Text

/-- A text behind the white space at its front. -/
def skipped (cs : List Char) : List Char :=
  cs.dropWhile Cursor.isSpace

/-- Four hexadecimal digits. -/
def SpellsHex (cs : List Char) (n : Nat) (rest : List Char) : Prop :=
  ∃ digits, cs = digits ++ rest ∧ digits.length = 4 ∧ hexNumber? digits = some n

/-- An escape, behind its backslash. -/
inductive SpellsEscape : List Char → Char → List Char → Prop
  | short {c d rest} : (c, d) ∈ shortEscapes → SpellsEscape (d :: rest) c rest
  | slash {rest} : SpellsEscape ('/' :: rest) '/' rest
  | number {cs n rest} : SpellsHex cs n rest → n < 0xD800 ∨ 0xDFFF < n →
      SpellsEscape ('u' :: cs) (Char.ofNat n) rest
  | halves {cs cs' high low rest} : SpellsHex cs high ('\\' :: 'u' :: cs') →
      SpellsHex cs' low rest → 0xD800 ≤ high → high ≤ 0xDBFF → 0xDC00 ≤ low → low ≤ 0xDFFF →
      SpellsEscape ('u' :: cs)
        (Char.ofNat ((high - 0xD800) * 0x400 + (low - 0xDC00) + 0x10000)) rest

/-- The characters of a string and its closing quote. -/
inductive SpellsChars : List Char → List Char → List Char → Prop
  | done {rest} : SpellsChars ('"' :: rest) [] rest
  | plain {c cs s rest} : c ≠ '"' → c ≠ '\\' → ¬ c.toNat < 32 → SpellsChars cs s rest →
      SpellsChars (c :: cs) (c :: s) rest
  | escape {c cs cs' s rest} : SpellsEscape cs c cs' → SpellsChars cs' s rest →
      SpellsChars ('\\' :: cs) (c :: s) rest

def AreDigits (digits : List Char) : Prop :=
  digits ≠ [] ∧ ∀ c ∈ digits, c.isDigit = true

/-- A character that a number may go on with. -/
def continuesNumber (c : Char) : Bool :=
  c.isDigit || c == '.' || c == 'e' || c == 'E'

/-- No number goes on at the front of a text. -/
def EndsNumber (rest : List Char) : Prop :=
  ∀ c ∈ rest.head?, continuesNumber c = false

/-- An exponent with its letter. -/
inductive SpellsExponent : List Char → List Char → Prop
  | mk {letter sign digits rest} : letter = 'e' ∨ letter = 'E' →
      sign = [] ∨ sign = ['+'] ∨ sign = ['-'] → AreDigits digits → EndsNumber rest →
      SpellsExponent (letter :: (sign ++ (digits ++ rest))) rest

/-- What makes a number floating-point: a fraction, an exponent, or both. -/
inductive SpellsTail : List Char → List Char → Prop
  | fraction {digits rest} : AreDigits digits → EndsNumber rest →
      SpellsTail ('.' :: (digits ++ rest)) rest
  | exponent {cs rest} : SpellsExponent cs rest → SpellsTail cs rest
  | both {digits cs rest} : AreDigits digits → SpellsExponent cs rest →
      SpellsTail ('.' :: (digits ++ cs)) rest

/-- What separates an element or a field from the one before it. -/
def SpellsSeparator (first : Bool) (cs rest : List Char) : Prop :=
  if first then rest = cs else skipped cs = ',' :: rest

mutual

/-- A value without white space before it. -/
inductive SpellsValue : List Char → Json → List Char → Prop
  | nullWord {rest} : SpellsValue ('n' :: 'u' :: 'l' :: 'l' :: rest) .null rest
  | trueWord {rest} : SpellsValue ('t' :: 'r' :: 'u' :: 'e' :: rest) (.bool true) rest
  | falseWord {rest} : SpellsValue ('f' :: 'a' :: 'l' :: 's' :: 'e' :: rest) (.bool false) rest
  | whole (n : Nat) {rest} : EndsNumber rest →
      SpellsValue (Nat.toDigits 10 n ++ rest) (.int n) rest
  | negative {n : Nat} {rest} : 0 < n → EndsNumber rest →
      SpellsValue ('-' :: (Nat.toDigits 10 n ++ rest)) (.int (-n)) rest
  | minusZero (x : Float) {rest} : EndsNumber rest →
      SpellsValue ('-' :: '0' :: rest) (.float x) rest
  | float (x : Float) (n : Nat) {cs rest} : SpellsTail cs rest →
      SpellsValue (Nat.toDigits 10 n ++ cs) (.float x) rest
  | negativeFloat (x : Float) (n : Nat) {cs rest} : SpellsTail cs rest →
      SpellsValue ('-' :: (Nat.toDigits 10 n ++ cs)) (.float x) rest
  | str {cs s rest} : SpellsChars cs s rest → SpellsValue ('"' :: cs) (.str (String.ofList s)) rest
  | arr {cs items rest} : SpellsItems true cs items rest → SpellsValue ('[' :: cs) (.arr items) rest
  | obj {cs fields rest} : SpellsFields true cs fields rest →
      SpellsValue ('\x7b' :: cs) (object fields) rest

/-- The elements of a list and its closing bracket. -/
inductive SpellsItems : Bool → List Char → List Json → List Char → Prop
  | done {first cs rest} : skipped cs = ']' :: rest → SpellsItems first cs [] rest
  | more {first cs cs₁ cs₂ v items rest} : SpellsSeparator first cs cs₁ →
      SpellsValue (skipped cs₁) v cs₂ → SpellsItems false cs₂ items rest →
      SpellsItems first cs (v :: items) rest

/-- The fields of an object and its closing brace. -/
inductive SpellsFields : Bool → List Char → List (String × Json) → List Char → Prop
  | done {first cs rest} : skipped cs = '\x7d' :: rest → SpellsFields first cs [] rest
  | more {first cs cs₁ cs₂ cs₃ cs₄ cs₅ name v fields rest} : SpellsSeparator first cs cs₁ →
      skipped cs₁ = '"' :: cs₂ → SpellsChars cs₂ name cs₃ → skipped cs₃ = ':' :: cs₄ →
      SpellsValue (skipped cs₄) v cs₅ → SpellsFields false cs₅ fields rest →
      SpellsFields first cs ((String.ofList name, v) :: fields) rest

end

/-- A whole text that spells a value. -/
def Spells (content : String) (v : Json) : Prop :=
  ∃ rest, SpellsValue (skipped content.toList) v rest ∧ skipped rest = []

theorem isDigit_toDigits_head {n : Nat} {c : Char} {cs : List Char}
    (h : Nat.toDigits 10 n = c :: cs) : c.isDigit = true :=
  Nat.isDigit_of_mem_toDigits (b := 10) (n := n) (by decide) (Nat.le_refl 10) (h ▸ .head _)

/-- Whether a value may start with a character. -/
def startsValue (c : Char) : Bool :=
  c.isDigit || ['n', 't', 'f', '-', '"', '[', '\x7b'].contains c

theorem SpellsValue.exists_cons {cs rest : List Char} {v : Json} (h : SpellsValue cs v rest) :
    ∃ c cs', cs = c :: cs' ∧ startsValue c = true := by
  have digits (n : Nat) (cs : List Char) :
      ∃ c cs', Nat.toDigits 10 n ++ cs = c :: cs' ∧ startsValue c = true := by
    obtain ⟨c, others, found⟩ := List.exists_cons_of_ne_nil
      (Nat.toDigits_ne_nil (n := n) (b := 10))
    refine ⟨c, others ++ cs, by rw [found, List.cons_append], ?_⟩
    rw [startsValue, isDigit_toDigits_head found, Bool.true_or]
  cases h with
  | whole n | float x n => exact digits n _
  | _ => exact ⟨_, _, rfl, by decide⟩

theorem SpellsValue.skipped_eq {cs rest : List Char} {v : Json} (h : SpellsValue cs v rest) :
    skipped cs = cs := by
  obtain ⟨c, cs', rfl, starts⟩ := h.exists_cons
  refine List.dropWhile_cons_of_neg fun space => ?_
  simp only [Cursor.isSpace, Bool.or_eq_true, decide_eq_true_eq] at space
  rcases space with ((rfl | rfl) | rfl) | rfl
  all_goals exact absurd starts (by decide)

section Plain

variable {cs cs₁ rest : List Char} {v : Json} {fields : List (String × Json)}

/-- No character of a string needs an escape. -/
def NeedsNoEscape (s : String) : Prop :=
  ∀ c ∈ s.toList, c ≠ '"' ∧ c ≠ '\\' ∧ ¬ c.toNat < 32

instance (s : String) : Decidable (NeedsNoEscape s) :=
  List.decidableBAll _ s.toList

theorem spellsChars_plain {s : String} (plain : NeedsNoEscape s) (rest : List Char) :
    SpellsChars (s.toList ++ '"' :: rest) s.toList rest := by
  unfold NeedsNoEscape at plain
  generalize s.toList = cs at plain ⊢
  induction cs with
  | nil => exact .done
  | cons c cs ih =>
      obtain ⟨⟨quote, backslash, shown⟩, others⟩ := List.forall_mem_cons.mp plain
      exact .plain quote backslash shown (ih others)

theorem SpellsValue.plain (s : String) (plain : NeedsNoEscape s := by decide) :
    SpellsValue ('"' :: (s.toList ++ '"' :: rest)) (.str s) rest := by
  have spelled := SpellsValue.str (spellsChars_plain plain rest)
  rwa [String.ofList_toList] at spelled

theorem SpellsItems.plain (value : SpellsValue cs v (']' :: rest)) :
    SpellsItems true cs [v] rest := by
  rw [← value.skipped_eq] at value
  exact .more rfl value (.done rfl)

theorem SpellsFields.plain (first : Bool) (name : String) (value : SpellsValue cs v cs₁)
    (others : SpellsFields false cs₁ fields rest) (plain : NeedsNoEscape name := by decide) :
    SpellsFields first (bif first then '"' :: (name.toList ++ '"' :: ':' :: cs)
        else ',' :: '"' :: (name.toList ++ '"' :: ':' :: cs)) ((name, v) :: fields) rest := by
  rw [← value.skipped_eq] at value
  have separated : SpellsSeparator first (bif first then '"' :: (name.toList ++ '"' :: ':' :: cs)
      else ',' :: '"' :: (name.toList ++ '"' :: ':' :: cs))
      ('"' :: (name.toList ++ '"' :: ':' :: cs)) := by
    cases first <;> rfl
  have spelled :=
    SpellsFields.more separated rfl (spellsChars_plain plain _) rfl value others
  rwa [String.ofList_toList] at spelled

end Plain

end ClientGen.Json
