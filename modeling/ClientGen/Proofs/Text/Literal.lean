import ClientGen.Json.Reader
import ClientGen.Proofs.Text.Replace
import ClientGen.Text.Quoted

/-! # Reading literals back

A literal stands between quotes, with escapes behind a backslash. What it denotes depends on the
language that reads it: the languages differ in their escapes and in the characters that may
stand for themselves. A text that has been quoted for a language denotes itself there, and
nothing of the literal is left over.
-/

namespace ClientGen.Text

/-- How a language reads the literals between its quotes. -/
structure Grammar where
  quote : Char
  /-- Whether a character, other than the quote and the backslash, may stand for itself. -/
  isPlain : Char → Bool
  /-- The character that an escape stands for, and what follows the escape. The backslash has
      been read. -/
  escape : List Char → Option (Char × List Char)
  advances {cs c rest} : escape cs = some (c, rest) → rest.length ≤ cs.length

namespace Grammar

/-- The characters of a literal and what follows its closing quote. The opening quote has been
    read. -/
def body? (g : Grammar) : List Char → Option (List Char × List Char)
  | [] => none
  | c :: cs =>
    if c = g.quote then some ([], cs)
    else if c = '\\' then
      match found : g.escape cs with
      | some (d, rest) =>
        have := g.advances found
        (g.body? rest).map (Prod.map (d :: ·) id)
      | none => none
    else if g.isPlain c then (g.body? cs).map (Prod.map (c :: ·) id)
    else none
termination_by cs => cs.length

/-- The text that a literal at the front denotes, and what follows the literal. -/
def read? (g : Grammar) (s : String) : Option (String × String) :=
  match s.toList with
  | c :: cs =>
    if c = g.quote then (g.body? cs).map (Prod.map String.ofList String.ofList) else none
  | [] => none

variable {g : Grammar} {c : Char} {cs rest : List Char}

theorem body?_quote : g.body? (g.quote :: rest) = some ([], rest) := by
  rw [body?, if_pos rfl]

theorem body?_escape (apart : g.quote ≠ '\\') (found : g.escape cs = some (c, rest)) :
    g.body? ('\\' :: cs) = (g.body? rest).map (Prod.map (c :: ·) id) := by
  rw [body?, if_neg apart.symm, if_pos rfl]
  split
  · rename_i other
    cases found.symm.trans other
    rfl
  · rename_i other
    cases found.symm.trans other

theorem body?_plain (noQuote : c ≠ g.quote) (noEscape : c ≠ '\\') (plain : g.isPlain c = true) :
    g.body? (c :: rest) = (g.body? rest).map (Prod.map (c :: ·) id) := by
  rw [body?, if_neg noQuote, if_neg noEscape, if_pos plain]

/-- A way to write each character that the grammar undoes. -/
def Undoes (g : Grammar) (write : Char → List Char) : Prop :=
  ∀ c rest, g.body? (write c ++ rest) = (g.body? rest).map (Prod.map (c :: ·) id)

namespace Undoes

variable {write : Char → List Char}

theorem body?_flatMap (h : g.Undoes write) :
    g.body? (cs.flatMap write ++ g.quote :: rest) = some (cs, rest) := by
  induction cs with
  | nil => exact body?_quote
  | cons c cs ih =>
      rw [List.flatMap_cons, List.append_assoc, h, ih]
      rfl

theorem read?_eq (h : g.Undoes write) {s : String} :
    g.read? (String.ofList (g.quote :: s.toList.flatMap write ++ [g.quote])) = some (s, "") := by
  rw [read?, String.toList_ofList, List.cons_append]
  simp only [if_pos, h.body?_flatMap, Option.map_some, Prod.map_apply, String.ofList_toList]

end Undoes

end Grammar

/-- The number that hexadecimal digits spell. -/
def hexNumber? (digits : List Char) : Option Nat :=
  digits.foldlM (fun n c => (Json.hexValue? c).map (16 * n + ·)) 0

/-- The character of a number, unless no character has it. -/
def charOf? (n : Nat) : Option Char :=
  if n.isValidChar then some (Char.ofNat n) else none

/-- The character whose number has exactly `count` digits. -/
def fixedHex? (count : Nat) (cs : List Char) : Option (Char × List Char) :=
  if count ≤ cs.length then
    ((hexNumber? (cs.take count)).bind charOf?).map (·, cs.drop count)
  else none

def isHex (c : Char) : Bool :=
  (Json.hexValue? c).isSome

/-- The character whose number has up to six digits and ends at a closing brace. -/
def bracedHex? (cs : List Char) : Option (Char × List Char) :=
  let digits := cs.takeWhile isHex
  match cs.dropWhile isHex with
  | '\x7d' :: rest =>
    if 0 < digits.length ∧ digits.length ≤ 6 then
      ((hexNumber? digits).bind charOf?).map (·, rest)
    else none
  | _ => none

section Hex

variable {c : Char} {cs rest : List Char} {width n : Nat}

theorem fixedHex?_advances (h : fixedHex? width cs = some (c, rest)) :
    rest.length ≤ cs.length := by
  rw [fixedHex?, Option.ite_none_right_eq_some, Option.map_eq_some_iff] at h
  obtain ⟨_, _, _, same⟩ := h
  cases same
  exact List.length_drop ▸ Nat.sub_le ..

theorem bracedHex?_advances (h : bracedHex? cs = some (c, rest)) : rest.length ≤ cs.length := by
  have shorter : (cs.dropWhile isHex).length ≤ cs.length :=
    (List.dropWhile_sublist isHex).length_le
  rw [bracedHex?] at h
  split at h
  · rename_i found
    rw [Option.ite_none_right_eq_some, Option.map_eq_some_iff] at h
    obtain ⟨_, _, _, same⟩ := h
    cases same
    rw [found] at shorter
    exact Nat.le_of_succ_le shorter
  · cases h

theorem hexValue?_digitChar (h : n < 16) : Json.hexValue? n.digitChar = some n := by
  revert n
  decide

theorem hexNumber?_concat : hexNumber? (cs ++ [c]) =
    (hexNumber? cs).bind fun n => (Json.hexValue? c).map (16 * n + ·) := by
  simp [hexNumber?]

theorem hexNumber?_toDigits (n : Nat) : hexNumber? (Nat.toDigits 16 n) = some n := by
  induction n using Nat.strongRecOn with
  | ind n ih =>
      by_cases small : n < 16
      · rw [Nat.toDigits_of_lt_base small]
        simp [hexNumber?, hexValue?_digitChar small]
      · rw [Nat.toDigits_of_base_le (by decide) (by omega), hexNumber?_concat,
          ih (n / 16) (by omega), hexValue?_digitChar (Nat.mod_lt n (by decide))]
        exact congrArg some (Nat.div_add_mod n 16)

theorem isHex_of_mem_toDigits (mem : c ∈ Nat.toDigits 16 n) : isHex c = true := by
  induction n using Nat.strongRecOn with
  | ind n ih =>
      have digit {d : Nat} (small : d < 16) : isHex d.digitChar = true := by
        rw [isHex, hexValue?_digitChar small, Option.isSome_some]
      by_cases small : n < 16
      · rw [Nat.toDigits_of_lt_base small, List.mem_singleton] at mem
        exact mem ▸ digit small
      · rw [Nat.toDigits_of_base_le (by decide) (by omega), List.mem_append] at mem
        cases mem with
        | inl mem => exact ih (n / 16) (by omega) mem
        | inr mem =>
            rw [List.mem_singleton] at mem
            exact mem ▸ digit (Nat.mod_lt n (by decide))

theorem isHex_of_mem_hexDigits (mem : c ∈ hexDigits width n) : isHex c = true := by
  rw [hexDigits, List.mem_append] at mem
  cases mem with
  | inl zero =>
      rw [(List.mem_replicate.mp zero).2]
      decide
  | inr digit => exact isHex_of_mem_toDigits digit

theorem hexNumber?_hexDigits : hexNumber? (hexDigits width n) = some n := by
  rw [hexDigits, ← hexNumber?_toDigits n]
  induction width - (Nat.toDigits 16 n).length with
  | zero => rfl
  | succ _ ih => exact ih

theorem length_hexDigits (fits : (Nat.toDigits 16 n).length ≤ width) :
    (hexDigits width n).length = width := by
  simp only [hexDigits, List.length_append, List.length_replicate]
  omega

theorem hexDigits_succ (fits : (Nat.toDigits 16 n).length ≤ width) :
    hexDigits (width + 1) n = '0' :: hexDigits width n := by
  rw [hexDigits, Nat.succ_sub fits, List.replicate_succ]
  rfl

theorem hexDigits_one : hexDigits 1 n = Nat.toDigits 16 n := by
  have : (Nat.toDigits 16 n).length ≠ 0 := fun h =>
    Nat.toDigits_ne_nil (List.eq_nil_of_length_eq_zero h)
  rw [hexDigits, Nat.sub_eq_zero_of_le (by omega)]
  rfl

theorem charOf?_toNat : charOf? c.toNat = some c := by
  rw [charOf?, if_pos (show c.toNat.isValidChar from c.valid), Char.ofNat_toNat]

theorem fixedHex?_hexDigits (fits : (Nat.toDigits 16 c.toNat).length ≤ width) :
    fixedHex? width (hexDigits width c.toNat ++ rest) = some (c, rest) := by
  have length := length_hexDigits fits
  rw [fixedHex?, if_pos (by rw [List.length_append]; omega), List.take_left' length,
    List.drop_left' length, hexNumber?_hexDigits, Option.bind_some, charOf?_toNat]
  rfl

theorem length_toDigits_toNat : (Nat.toDigits 16 c.toNat).length ≤ 6 := by
  refine (Nat.length_toDigits_le_iff (by decide) (by decide)).mpr ?_
  have valid : c.toNat.isValidChar := c.valid
  unfold Nat.isValidChar at valid
  omega

theorem bracedHex?_hexDigits :
    bracedHex? (hexDigits 1 c.toNat ++ '\x7d' :: rest) = some (c, rest) := by
  have hex : ∀ d ∈ Nat.toDigits 16 c.toNat, isHex d = true := fun _ => isHex_of_mem_toDigits
  have some_digit : 0 < (Nat.toDigits 16 c.toNat).length :=
    List.length_pos_iff.mpr Nat.toDigits_ne_nil
  have brace : ¬ isHex '\x7d' = true := by decide
  rw [hexDigits_one, bracedHex?, List.takeWhile_append_of_pos hex,
    List.dropWhile_append_of_pos hex, List.takeWhile_cons_of_neg brace,
    List.dropWhile_cons_of_neg brace, List.append_nil]
  simp only [some_digit, length_toDigits_toNat, hexNumber?_toDigits, Option.bind_some, charOf?_toNat,
    and_self, if_true, Option.map_some]

end Hex

/-- Characters that are written as a backslash and a letter or mark, and that letter or mark. -/
def shortEscapes : List (Char × Char) :=
  [('"', '"'), ('\\', '\\'), ('\x08', 'b'), ('\x0c', 'f'), ('\n', 'n'), ('\r', 'r'), ('\t', 't')]

/-- How a character is written: with a short escape, by its number, or as it is. -/
theorem escapeJson_cases (c : Char) :
    (∃ d, (c, d) ∈ shortEscapes ∧ escapeJson c = ['\\', d]) ∨
    (c.toNat < 32 ∧ escapeJson c = '\\' :: 'u' :: hexDigits 4 c.toNat) ∨
    (c ≠ '"' ∧ c ≠ '\\' ∧ ¬ c.toNat < 32 ∧ escapeJson c = [c]) := by
  fun_cases escapeJson c with
  | case8 _ _ _ _ _ _ _ control => exact .inr (.inl ⟨control, rfl⟩)
  | case9 quote backslash _ _ _ _ _ visible =>
      exact .inr (.inr ⟨quote, backslash, visible, rfl⟩)
  | _ =>
      subst c
      exact .inl ⟨_, by decide, rfl⟩

/-- What stands behind a backslash in Dart. A character that has no meaning of its own there
    stands for itself. -/
def dartEscape? : List Char → Option (Char × List Char)
  | 'b' :: rest => some ('\x08', rest)
  | 'f' :: rest => some ('\x0c', rest)
  | 'n' :: rest => some ('\n', rest)
  | 'r' :: rest => some ('\r', rest)
  | 't' :: rest => some ('\t', rest)
  | 'v' :: rest => some ('\x0b', rest)
  | 'x' :: rest => fixedHex? 2 rest
  | 'u' :: '\x7b' :: rest => bracedHex? rest
  | 'u' :: rest => fixedHex? 4 rest
  | c :: rest => some (c, rest)
  | [] => none

theorem dartEscape?_advances {c : Char} {cs rest : List Char}
    (h : dartEscape? cs = some (c, rest)) : rest.length ≤ cs.length := by
  unfold dartEscape? at h
  split at h
  case h_7 => exact Nat.le_succ_of_le (fixedHex?_advances h)
  case h_8 => exact Nat.le_succ_of_le (Nat.le_succ_of_le (bracedHex?_advances h))
  case h_9 => exact Nat.le_succ_of_le (fixedHex?_advances h)
  case h_11 => cases h
  all_goals
    cases h
    exact Nat.le_succ _

/-- Literals between double quotes. A dollar sign would interpolate what follows it, and a line
    end would end the literal. -/
def Grammar.dart : Grammar where
  quote := '"'
  isPlain c := c != '$' && c != '\n' && c != '\r'
  escape := dartEscape?
  advances := dartEscape?_advances

theorem dartEscape?_unicode {c : Char} {rest : List Char} (control : c.toNat < 32) :
    dartEscape? ('u' :: (hexDigits 4 c.toNat ++ rest)) = some (c, rest) := by
  have few : (Nat.toDigits 16 c.toNat).length ≤ 3 :=
    (Nat.length_toDigits_le_iff (by decide) (by decide)).mpr (by omega)
  have unbraced : dartEscape? ('u' :: (hexDigits 4 c.toNat ++ rest))
      = fixedHex? 4 (hexDigits 4 c.toNat ++ rest) := by
    rw [hexDigits_succ few]
    rfl
  rw [unbraced, fixedHex?_hexDigits (Nat.le_succ_of_le few)]

theorem dartEscape?_short {c d : Char} {rest : List Char} (short : (c, d) ∈ shortEscapes) :
    dartEscape? (d :: rest) = some (c, rest) := by
  simp only [shortEscapes, List.mem_cons, Prod.mk.injEq, List.not_mem_nil, or_false] at short
  rcases short with short | short | short | short | short | short | short
  all_goals
    obtain ⟨rfl, rfl⟩ := short
    rfl

theorem Grammar.dart_undoes : dart.Undoes Quoting.dart.escape := by
  intro c rest
  have escaped {cs : List Char} (found : dartEscape? cs = some (c, rest)) :=
    body?_escape (g := dart) (by decide) found
  show dart.body? (escapeDart c ++ rest) = _
  unfold escapeDart
  split
  · subst c
    exact escaped rfl
  · rename_i dollar
    obtain ⟨d, short, same⟩ | ⟨control, same⟩ | ⟨quote, backslash, visible, same⟩ :=
      escapeJson_cases c
    · rw [same]
      exact escaped (dartEscape?_short short)
    · rw [same]
      exact escaped (dartEscape?_unicode control)
    · have lineFeed : c ≠ '\n' := by
        rintro rfl
        exact visible (by decide)
      have carriage : c ≠ '\r' := by
        rintro rfl
        exact visible (by decide)
      rw [same]
      exact body?_plain quote backslash (by simp [dart, dollar, lineFeed, carriage])

theorem dollar_not_mem_escapeJson {c : Char} (other : c ≠ '$') : '$' ∉ escapeJson c := by
  obtain ⟨d, short, same⟩ | ⟨control, same⟩ | ⟨-, -, -, same⟩ := escapeJson_cases c
  · have absent : ∀ pair ∈ shortEscapes, '$' ∉ ['\\', pair.2] := by decide
    rw [same]
    exact absent (c, d) short
  · rw [same]
    intro mem
    simp only [List.mem_cons] at mem
    obtain mem | mem | mem := mem
    · cases mem
    · cases mem
    · exact absurd (isHex_of_mem_hexDigits mem) (by decide)
  · rw [same]
    exact fun mem => other (List.mem_singleton.mp mem).symm

theorem escapeDart_eq (c : Char) :
    escapeDart c = (escapeJson c).flatMap fun d => if d = '$' then ['\\', '$'] else [d] := by
  by_cases dollar : c = '$'
  · subst c
    rfl
  · have kept : ∀ d ∈ escapeJson c, (if d = '$' then ['\\', '$'] else [d]) = [d] := by
      intro d mem
      have other : d ≠ '$' := ne_of_mem_of_not_mem mem (dollar_not_mem_escapeJson dollar)
      rw [if_neg other]
    rw [escapeDart, if_neg dollar, List.flatMap_def, List.map_congr_left kept, ← List.flatMap_def,
      List.flatMap_singleton']

/-- The notation is that of JSON with a backslash before each dollar sign, none of which is part
    of an escape. -/
theorem quote_dart_eq_replace (s : String) :
    Quoting.dart.quote s = replace (Quoting.json.quote s) "$" "\\$" := by
  rw [← String.toList_inj, toList_replace (by decide)]
  refine Eq.trans ?_ replaced_singleton.symm
  simp only [Quoting.quote, Quoting.escape, String.toList_ofList, List.cons_append,
    List.flatMap_cons, List.flatMap_append, List.flatMap_assoc, funext escapeDart_eq]
  rfl

/-- What stands behind a backslash in Rust. -/
def rustEscape? : List Char → Option (Char × List Char)
  | 'n' :: rest => some ('\n', rest)
  | 'r' :: rest => some ('\r', rest)
  | 't' :: rest => some ('\t', rest)
  | '0' :: rest => some ('\x00', rest)
  | '\\' :: rest => some ('\\', rest)
  | '"' :: rest => some ('"', rest)
  | '\'' :: rest => some ('\'', rest)
  | 'u' :: '\x7b' :: rest => bracedHex? rest
  | _ => none

theorem rustEscape?_advances {c : Char} {cs rest : List Char}
    (h : rustEscape? cs = some (c, rest)) : rest.length ≤ cs.length := by
  unfold rustEscape? at h
  split at h
  case h_8 => exact Nat.le_succ_of_le (Nat.le_succ_of_le (bracedHex?_advances h))
  case h_9 => cases h
  all_goals
    cases h
    exact Nat.le_succ _

/-- Literals between double quotes, which may go over several lines but hold no carriage
    return. -/
def Grammar.rust : Grammar where
  quote := '"'
  isPlain c := c != '\r'
  escape := rustEscape?
  advances := rustEscape?_advances

theorem Grammar.rust_undoes : rust.Undoes Quoting.rust.escape := by
  intro c rest
  have escaped {cs : List Char} (found : rustEscape? cs = some (c, rest)) :=
    body?_escape (g := rust) (by decide) found
  show rust.body? (escapeRust c ++ rest) = _
  fun_cases escapeRust c with
  | case7 =>
      have unicode : rustEscape? ('u' :: '\x7b' :: (hexDigits 1 c.toNat ++ '\x7d' :: rest))
          = some (c, rest) := bracedHex?_hexDigits
      simpa using escaped unicode
  | case8 quote backslash _ _ carriage =>
      exact body?_plain quote backslash (by simp [rust, carriage])
  | _ =>
      subst c
      exact escaped rfl

end ClientGen.Text
