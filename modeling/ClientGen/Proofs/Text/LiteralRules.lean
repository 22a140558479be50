import ClientGen.Proofs.Text.SourceLiterals

/-! # Literals of the languages

How Dart, Go, Python and Rust read the literals that hold the names of a model. All of them have
short escapes behind a backslash and escapes by number; they differ in the units of a text and in
the characters that do not stand for themselves.
-/

namespace ClientGen.Text

namespace Dart

/-- The units of a code point: itself, or two halves of it. -/
def units (n : Nat) : List Nat :=
  if n < 0x10000 then [n] else [0xD800 + (n - 0x10000) / 0x400, 0xDC00 + (n - 0x10000) % 0x400]

theorem units_ne_nil (n : Nat) : units n ≠ [] := by
  unfold units
  split <;> exact List.cons_ne_nil _ _

theorem units_length_le (n : Nat) : (units n).length ≤ 2 := by
  unfold units
  split <;> simp

/-- A number in digits; any other character stands for itself. -/
def otherEscape? : List Char → Option (List Nat × List Char)
  | 'x' :: rest => coded (upTo 0xFF) (fixedNumber? 2 rest)
  | 'u' :: '\x7b' :: rest =>
    coded (fun n => if n ≤ 0x10FFFF then some (units n) else none)
      (bracedNumber? (fun _ => false) rest)
  | 'u' :: rest => coded (upTo 0xFFFF) (fixedNumber? 4 rest)
  | c :: rest => some (units c.toNat, rest)
  | [] => none

theorem otherEscape?_spends {cs rest : List Char} {value : List Nat}
    (h : otherEscape? cs = some (value, rest)) :
    Spends (fun c => units c.toNat) value.length cs rest := by
  have nonempty (c : Char) : units c.toNat ≠ [] := units_ne_nil _
  unfold otherEscape? at h
  split at h
  · exact coded_upTo_spends ['x'] nonempty fixedNumber?_spelledBy h
  · refine coded_spends ['u', '\x7b'] nonempty bracedNumber?_spelledBy
      (fun n value unit => ?_) h
    obtain ⟨_, same⟩ := Option.ite_none_right_eq_some.mp unit
    cases same
    exact Nat.le_trans (units_length_le n) (by decide)
  · exact coded_upTo_spends ['u'] nonempty fixedNumber?_spelledBy h
  · cases h
    exact ⟨[_], rfl, by simp⟩
  · cases h

/-- Literals between single quotes. A dollar sign would interpolate what follows it, and a line
    end would end the literal. -/
def singleQuoted : LiteralRules where
  quote := '\''
  units c := units c.toNat
  isPlain c _ := c != '\\' && c != '$' && c != '\n' && c != '\r'
  escape := backslash [('b', 8), ('f', 12), ('n', 10), ('r', 13), ('t', 9), ('v', 11)] otherEscape?
  units_ne_nil c := units_ne_nil c.toNat
  spends := backslash_spends (fun c => units_ne_nil c.toNat) otherEscape?_spends

end Dart

namespace Go

/-- The bytes of a character. -/
def bytes (c : Char) : List Nat :=
  (String.utf8EncodeChar c).map UInt8.toNat

theorem bytes_ne_nil (c : Char) : bytes c ≠ [] := by
  rw [← List.length_pos_iff, bytes, List.length_map, String.length_utf8EncodeChar]
  exact c.utf8Size_pos

theorem bytes_length_le (c : Char) : (bytes c).length ≤ 4 := by
  rw [bytes, List.length_map, String.length_utf8EncodeChar]
  exact c.utf8Size_le_four

/-- The bytes of the character of a number. -/
def ofNumber? (n : Nat) : Option (List Nat) :=
  (charOf? n).map bytes

theorem ofNumber?_length_le (n : Nat) (value : List Nat) (h : ofNumber? n = some value) :
    value.length ≤ 4 := by
  obtain ⟨c, -, rfl⟩ := Option.map_eq_some_iff.mp h
  exact bytes_length_le c

/-- The number of a byte, or of a character. -/
def otherEscape? : List Char → Option (List Nat × List Char)
  | 'x' :: rest => coded (upTo 0xFF) (fixedNumber? 2 rest)
  | 'u' :: rest => coded ofNumber? (fixedNumber? 4 rest)
  | 'U' :: rest => coded ofNumber? (fixedNumber? 8 rest)
  | cs => coded (upTo 0xFF) (octalNumber? 3 cs)

theorem otherEscape?_spends {cs rest : List Char} {value : List Nat}
    (h : otherEscape? cs = some (value, rest)) : Spends bytes value.length cs rest := by
  unfold otherEscape? at h
  split at h
  · exact coded_upTo_spends ['x'] bytes_ne_nil fixedNumber?_spelledBy h
  · exact coded_spends ['u'] bytes_ne_nil fixedNumber?_spelledBy
      (fun n value unit => Nat.le_succ_of_le (ofNumber?_length_le n value unit)) h
  · exact coded_spends ['U'] bytes_ne_nil fixedNumber?_spelledBy
      (fun n value unit => Nat.le_trans (ofNumber?_length_le n value unit) (by decide)) h
  · exact coded_upTo_spends [] bytes_ne_nil octalNumber?_spelledBy h

/-- Literals between double quotes, on one line. -/
def doubleQuoted : LiteralRules where
  quote := '"'
  units := bytes
  isPlain c _ := c != '\\' && c != '\n'
  escape :=
    backslash [('a', 7), ('b', 8), ('f', 12), ('n', 10), ('r', 13), ('t', 9), ('v', 11),
      ('\\', 92), ('"', 34)] otherEscape?
  units_ne_nil := bytes_ne_nil
  spends := backslash_spends bytes_ne_nil otherEscape?_spends

end Go

namespace Python

/-- The characters that mean something behind a backslash. The backslash stands for itself before
    any other character. -/
def escapable : List Char :=
  ['\n', '\r', '\\', '\'', '"', 'a', 'b', 'f', 'n', 'r', 't', 'v', '0', '1', '2', '3', '4', '5',
    '6', '7', 'x', 'N', 'u', 'U']

/-- Names of characters are looked up in `named`. -/
def namedNumber? (named : String → Option Nat) (cs : List Char) : Option (Nat × List Char) :=
  match cs.dropWhile (· != '\x7d') with
  | _ :: rest => (named (String.ofList (cs.takeWhile (· != '\x7d')))).map (·, rest)
  | [] => none

theorem namedNumber?_spelledBy {named : String → Option Nat} {cs : List Char} :
    SpelledBy 1 cs (namedNumber? named cs) := by
  intro n rest h
  rw [namedNumber?] at h
  split at h
  · rename_i brace behind found
    obtain ⟨_, _, same⟩ := Option.map_eq_some_iff.mp h
    cases same
    refine ⟨cs.takeWhile (· != '\x7d') ++ [brace], ?_, ?_⟩
    · rw [List.append_assoc, List.singleton_append, ← found, List.takeWhile_append_dropWhile]
    · rw [List.length_append]
      exact Nat.le_add_left _ _
  · cases h

/-- The number or the name of a character, or the end of a line that goes on. -/
def otherEscape? (named : String → Option Nat) : List Char → Option (List Nat × List Char)
  | 'x' :: rest => coded (upTo 0xFF) (fixedNumber? 2 rest)
  | 'u' :: rest => coded (upTo 0xFFFF) (fixedNumber? 4 rest)
  | 'U' :: rest => coded (upTo 0x10FFFF) (fixedNumber? 8 rest)
  | 'N' :: '\x7b' :: rest => coded (upTo 0x10FFFF) (namedNumber? named rest)
  | '\r' :: '\n' :: rest => some ([], rest)
  | '\r' :: rest => some ([], rest)
  | '\n' :: rest => some ([], rest)
  | cs => coded (upTo 0o777) (octalNumber? 1 cs)

variable {named : String → Option Nat} {cs rest : List Char} {value : List Nat}

theorem otherEscape?_spends (h : otherEscape? named cs = some (value, rest)) :
    Spends ownNumber value.length cs rest := by
  unfold otherEscape? at h
  split at h
  · exact coded_upTo_spends ['x'] ownNumber_ne_nil fixedNumber?_spelledBy h
  · exact coded_upTo_spends ['u'] ownNumber_ne_nil fixedNumber?_spelledBy h
  · exact coded_upTo_spends ['U'] ownNumber_ne_nil fixedNumber?_spelledBy h
  · exact coded_upTo_spends ['N', '\x7b'] ownNumber_ne_nil namedNumber?_spelledBy h
  · cases h
    exact ⟨['\r', '\n'], rfl, Nat.zero_le _⟩
  · cases h
    exact ⟨['\r'], rfl, Nat.zero_le _⟩
  · cases h
    exact ⟨['\n'], rfl, Nat.zero_le _⟩
  · exact coded_upTo_spends [] ownNumber_ne_nil octalNumber?_spelledBy h

/-- Literals between double quotes, on one line. A source holds no null character. -/
def doubleQuoted (named : String → Option Nat) : LiteralRules where
  quote := '"'
  units := ownNumber
  isPlain c next :=
    c != '\x00' && c != '\n' && c != '\r' && (c != '\\' || !escapable.contains next)
  escape :=
    backslash [('\\', 92), ('\'', 39), ('"', 34), ('a', 7), ('b', 8), ('f', 12), ('n', 10),
      ('r', 13), ('t', 9), ('v', 11)] (otherEscape? named)
  units_ne_nil := ownNumber_ne_nil
  spends := backslash_spends ownNumber_ne_nil otherEscape?_spends

end Python

namespace Rust

/-- White space at the start of a line that goes on another. -/
def isSkipped (c : Char) : Bool :=
  c == ' ' || c == '\t' || c == '\n' || c == '\r'

/-- The number of a character, or the end of a line that goes on. -/
def otherEscape? : List Char → Option (List Nat × List Char)
  | 'x' :: rest => coded (upTo 0x7F) (fixedNumber? 2 rest)
  | 'u' :: '\x7b' :: rest =>
    coded (fun n => (charOf? n).map ownNumber) (bracedNumber? (· == '_') rest)
  | '\n' :: rest => some ([], rest.dropWhile isSkipped)
  | '\r' :: '\n' :: rest => some ([], rest.dropWhile isSkipped)
  | _ => none

theorem otherEscape?_spends {cs rest : List Char} {value : List Nat}
    (h : otherEscape? cs = some (value, rest)) : Spends ownNumber value.length cs rest := by
  unfold otherEscape? at h
  split at h
  · exact coded_upTo_spends ['x'] ownNumber_ne_nil fixedNumber?_spelledBy h
  · refine coded_spends ['u', '\x7b'] ownNumber_ne_nil bracedNumber?_spelledBy
      (fun n value unit => ?_) h
    obtain ⟨_, -, rfl⟩ := Option.map_eq_some_iff.mp unit
    exact Nat.le_add_left 1 _
  · rename_i behind
    cases h
    exact ⟨'\n' :: behind.takeWhile isSkipped,
      by rw [List.cons_append, List.takeWhile_append_dropWhile], Nat.zero_le _⟩
  · rename_i behind
    cases h
    exact ⟨'\r' :: '\n' :: behind.takeWhile isSkipped,
      by rw [List.cons_append, List.cons_append, List.takeWhile_append_dropWhile], Nat.zero_le _⟩
  · cases h

/-- An escape behind a backslash, or a line end of two characters, which counts as one. -/
def escape? : List Char → Option (List Nat × List Char)
  | '\r' :: '\n' :: rest => some ([10], rest)
  | cs =>
    backslash [('n', 10), ('r', 13), ('t', 9), ('0', 0), ('\\', 92), ('"', 34), ('\'', 39)]
      otherEscape? cs

theorem escape?_spends {cs rest : List Char} {value : List Nat}
    (h : escape? cs = some (value, rest)) : Spends ownNumber (value.length + 1) cs rest := by
  unfold escape? at h
  split at h
  · cases h
    exact ⟨['\r', '\n'], rfl, by decide⟩
  · exact backslash_spends ownNumber_ne_nil otherEscape?_spends h

/-- Literals between double quotes, which may go over several lines but hold no carriage return
    by itself. -/
def doubleQuoted : LiteralRules where
  quote := '"'
  units := ownNumber
  isPlain c _ := c != '\\' && c != '\r'
  escape := escape?
  units_ne_nil := ownNumber_ne_nil
  spends := escape?_spends

end Rust

end ClientGen.Text
