import ClientGen.Proofs.Text.Literal

/-! # Names inside literals

What a literal of a source file denotes when a name stands between its quotes as it is, without
escapes. Some characters mean something else there: they end the literal, begin an escape, or may
not stand there at all. A literal denotes the name between its quotes if and only if the name has
no such character.

An escape may stand for a byte, or for half a character. So literals denote lists of numbers here,
and not texts.
-/

namespace ClientGen.Text

/-- What stands in front of `rest` has at least `count` units. -/
def Spends (units : Char → List Nat) (count : Nat) (cs rest : List Char) : Prop :=
  ∃ used, cs = used ++ rest ∧ count ≤ (used.flatMap units).length

theorem length_le_flatMap {units : Char → List Nat} (nonempty : ∀ c, units c ≠ [])
    (cs : List Char) : cs.length ≤ (cs.flatMap units).length := by
  induction cs with
  | nil => exact Nat.le_refl 0
  | cons c cs ih =>
      have := List.length_pos_iff.mpr (nonempty c)
      rw [List.flatMap_cons, List.length_append, List.length_cons]
      omega

theorem Spends.cons {units : Char → List Nat} {c : Char} {count : Nat} {cs rest : List Char}
    (nonempty : units c ≠ []) (h : Spends units count cs rest) :
    Spends units (count + 1) (c :: cs) rest := by
  obtain ⟨used, rfl, enough⟩ := h
  refine ⟨c :: used, rfl, ?_⟩
  have := List.length_pos_iff.mpr nonempty
  rw [List.flatMap_cons, List.length_append]
  omega

/-- How a language reads the literals between its quotes. Its texts are made of numbers: of
    characters by code point, or of the units that encode them. -/
structure LiteralRules where
  quote : Char
  /-- What a character adds to a text. -/
  units : Char → List Nat
  /-- Whether a character, other than the quote, stands for itself before the next one. -/
  isPlain (c next : Char) : Bool
  /-- What an escape at the front stands for, and what follows the escape. -/
  escape : List Char → Option (List Nat × List Char)
  units_ne_nil (c : Char) : units c ≠ []
  /-- An escape is longer than what it stands for. -/
  spends {cs value rest} : escape cs = some (value, rest) → Spends units (value.length + 1) cs rest

namespace LiteralRules

variable (g : LiteralRules)

/-- What a text denotes. -/
def encode (cs : List Char) : List Nat :=
  cs.flatMap g.units

/-- Whether every character of a text stands for itself between quotes. -/
def allPlain : List Char → Bool
  | [] => true
  | c :: cs => c != g.quote && g.isPlain c (cs.headD g.quote) && allPlain cs

theorem length_lt_of_escape {cs rest : List Char} {value : List Nat}
    (h : g.escape cs = some (value, rest)) : rest.length < cs.length := by
  obtain ⟨used, rfl, enough⟩ := g.spends h
  have nonempty : used ≠ [] := by
    rintro rfl
    exact absurd enough (Nat.not_succ_le_zero _)
  have := List.length_pos_iff.mpr nonempty
  rw [List.length_append]
  omega

/-- What a literal denotes and what follows its closing quote. The opening quote has been read. -/
def body? : List Char → Option (List Nat × List Char)
  | [] => none
  | c :: cs =>
    if c = g.quote then some ([], cs)
    else if g.isPlain c (cs.headD g.quote) then
      (body? cs).map (Prod.map (g.units c ++ ·) id)
    else
      match found : g.escape (c :: cs) with
      | some (value, rest) =>
        have := g.length_lt_of_escape found
        (body? rest).map (Prod.map (value ++ ·) id)
      | none => none
termination_by cs => cs.length
decreasing_by
  · exact Nat.lt_succ_self _
  · assumption

/-- What a literal at the front denotes, and what follows the literal. -/
def read? (s : String) : Option (List Nat × String) :=
  match s.toList with
  | c :: cs =>
    if c = g.quote then (g.body? cs).map (Prod.map id String.ofList) else none
  | [] => none

/-- A name between quotes, as it is. -/
def literal (name : String) : String :=
  String.singleton g.quote ++ name ++ String.singleton g.quote

section Names

variable {g} {cs name rest : List Char} {value : List Nat}

theorem body?_allPlain (plain : g.allPlain name = true) :
    g.body? (name ++ g.quote :: rest) = some (g.encode name, rest) := by
  induction name with
  | nil => rw [List.nil_append, body?, if_pos rfl]; rfl
  | cons c cs ih =>
      simp only [allPlain, Bool.and_eq_true, bne_iff_ne] at plain
      obtain ⟨⟨noQuote, stands⟩, others⟩ := plain
      have next : (cs ++ g.quote :: rest).headD g.quote = cs.headD g.quote := by
        cases cs <;> rfl
      rw [List.cons_append, body?, if_neg noQuote, next, if_pos stands, ih others]
      rfl

theorem body?_eq_some (read : g.body? cs = some (value, rest)) :
    ∃ between, cs = between ++ g.quote :: rest ∧
      (value = g.encode between ∧ g.allPlain between = true ∨
        value.length < (g.encode between).length) := by
  fun_induction body? g cs generalizing value with
  | case1 => cases read
  | case2 rest =>
      cases read
      exact ⟨[], rfl, .inl ⟨rfl, rfl⟩⟩
  | case3 c cs noQuote stands ih =>
      obtain ⟨⟨value, rest⟩, inner, same⟩ := Option.map_eq_some_iff.mp read
      obtain ⟨rfl, rfl⟩ := Prod.mk.inj same
      obtain ⟨between, rfl, denoted⟩ := ih inner
      refine ⟨c :: between, rfl, ?_⟩
      have next : (between ++ g.quote :: rest).headD g.quote = between.headD g.quote := by
        cases between <;> rfl
      rcases denoted with ⟨rfl, plain⟩ | shorter
      · rw [id, next] at stands
        refine .inl ⟨rfl, ?_⟩
        simp only [allPlain, Bool.and_eq_true, bne_iff_ne]
        exact ⟨⟨noQuote, stands⟩, plain⟩
      · refine .inr ?_
        simpa [encode] using shorter
  | case4 c cs _ _ value' rest' found _ ih =>
      obtain ⟨⟨value, rest⟩, inner, same⟩ := Option.map_eq_some_iff.mp read
      obtain ⟨rfl, rfl⟩ := Prod.mk.inj same
      obtain ⟨between, rfl, denoted⟩ := ih inner
      obtain ⟨used, whole, spent⟩ := g.spends found
      refine ⟨used ++ between, by rw [whole, List.append_assoc], .inr ?_⟩
      have size : value.length ≤ (g.encode between).length := by
        rcases denoted with ⟨rfl, -⟩ | shorter
        · exact Nat.le_refl _
        · exact Nat.le_of_lt shorter
      simp only [encode, List.flatMap_append, List.length_append] at size spent ⊢
      omega
  | case5 => cases read

theorem body?_iff (rest : List Char) :
    g.body? (name ++ g.quote :: rest) = some (g.encode name, rest) ↔ g.allPlain name = true := by
  refine ⟨fun read => ?_, body?_allPlain⟩
  obtain ⟨between, same, denoted⟩ := body?_eq_some read
  obtain rfl := List.append_cancel_right same
  rcases denoted with ⟨-, plain⟩ | shorter
  · exact plain
  · exact absurd shorter (Nat.lt_irrefl _)

end Names

/-- A literal denotes the name between its quotes, and ends behind it, if and only if every
    character of the name stands for itself. -/
theorem read?_literal_iff (name rest : String) :
    g.read? (g.literal name ++ rest) = some (g.encode name.toList, rest)
      ↔ g.allPlain name.toList = true := by
  have text : (g.literal name ++ rest).toList
      = g.quote :: (name.toList ++ g.quote :: rest.toList) := by
    simp [literal]
  rw [read?, text, ← body?_iff rest.toList]
  simp only [if_pos, Option.map_eq_some_iff]
  constructor
  · rintro ⟨⟨value, behind⟩, read, same⟩
    obtain ⟨rfl, rfl⟩ := Prod.mk.inj same
    rw [read, String.toList_ofList]
  · exact fun read => ⟨_, read, by simp⟩

end LiteralRules

/-- The number that exactly `count` hexadecimal digits spell. -/
def fixedNumber? (count : Nat) (cs : List Char) : Option (Nat × List Char) :=
  if count ≤ cs.length then (hexNumber? (cs.take count)).map (·, cs.drop count) else none

/-- The number that up to six hexadecimal digits spell before a closing brace. Some languages
    allow a filler behind the first digit. -/
def bracedNumber? (isFiller : Char → Bool) (cs : List Char) : Option (Nat × List Char) :=
  let inner := cs.takeWhile fun c => isHex c || isFiller c
  match cs.dropWhile fun c => isHex c || isFiller c with
  | '\x7d' :: rest =>
    let digits := inner.filter isHex
    if inner.head?.any isHex && digits.length ≤ 6 then (hexNumber? digits).map (·, rest)
    else none
  | _ => none

def isOctal (c : Char) : Bool :=
  '0' ≤ c && c ≤ '7'

/-- The number that up to three octal digits spell, at least `least` of them. -/
def octalNumber? (least : Nat) (cs : List Char) : Option (Nat × List Char) :=
  let digits := (cs.take 3).takeWhile isOctal
  if least ≤ digits.length then
    some (digits.foldl (fun n c => 8 * n + (c.toNat - '0'.toNat)) 0, cs.drop digits.length)
  else none

/-- What the number of an escape adds to a text, if the escape may have this number. -/
def coded (code : Nat → Option (List Nat)) (number : Option (Nat × List Char)) :
    Option (List Nat × List Char) :=
  number.bind fun (n, rest) => (code n).map (·, rest)

/-- A number up to a bound is a unit by itself. -/
def upTo (bound n : Nat) : Option (List Nat) :=
  if n ≤ bound then some [n] else none

/-- The units of a language that counts its characters one by one. -/
def ownNumber (c : Char) : List Nat :=
  [c.toNat]

theorem ownNumber_ne_nil (c : Char) : ownNumber c ≠ [] :=
  List.cons_ne_nil _ _

/-- Escapes of a backslash and one character and what they stand for, before all others. What
    stands behind the backslash of these is left to `other`. -/
def backslash (short : List (Char × Nat)) (other : List Char → Option (List Nat × List Char)) :
    List Char → Option (List Nat × List Char)
  | '\\' :: c :: rest =>
    match short.lookup c with
    | some n => some ([n], rest)
    | none => other (c :: rest)
  | _ => none

section Escapes

variable {units : Char → List Nat} {cs rest : List Char} {value : List Nat} {n count : Nat}

/-- A number is spelled by at least `count` characters. -/
def SpelledBy (count : Nat) (cs : List Char) (number : Option (Nat × List Char)) : Prop :=
  ∀ n rest, number = some (n, rest) → ∃ used, cs = used ++ rest ∧ count ≤ used.length

theorem fixedNumber?_spelledBy : SpelledBy count cs (fixedNumber? count cs) := by
  intro n rest h
  rw [fixedNumber?, Option.ite_none_right_eq_some, Option.map_eq_some_iff] at h
  obtain ⟨enough, _, _, same⟩ := h
  cases same
  exact ⟨cs.take count, (List.take_append_drop count cs).symm,
    Nat.le_of_eq (List.length_take_of_le enough).symm⟩

theorem bracedNumber?_spelledBy {isFiller : Char → Bool} :
    SpelledBy 2 cs (bracedNumber? isFiller cs) := by
  intro n rest h
  rw [bracedNumber?] at h
  split at h
  · rename_i found
    obtain ⟨nonempty, h⟩ := Option.ite_none_right_eq_some.mp h
    obtain ⟨_, _, same⟩ := Option.map_eq_some_iff.mp h
    cases same
    refine ⟨cs.takeWhile (fun c => isHex c || isFiller c) ++ ['\x7d'], ?_, ?_⟩
    · rw [List.append_assoc, List.singleton_append, ← found, List.takeWhile_append_dropWhile]
    · generalize cs.takeWhile (fun c => isHex c || isFiller c) = inner at nonempty ⊢
      cases inner with
      | nil => simp at nonempty
      | cons => simp
  · cases h

theorem octalNumber?_spelledBy : SpelledBy count cs (octalNumber? count cs) := by
  intro n rest h
  obtain ⟨enough, same⟩ := Option.ite_none_right_eq_some.mp h
  cases same
  refine ⟨_, (List.take_append_drop _ cs).symm, ?_⟩
  have few : ((cs.take 3).takeWhile isOctal).length ≤ cs.length :=
    ((List.takeWhile_sublist _).trans (List.take_sublist 3 cs)).length_le
  rw [List.length_take_of_le few]
  exact enough

theorem coded_spends {code : Nat → Option (List Nat)} {number : Option (Nat × List Char)}
    (front : List Char) (nonempty : ∀ c, units c ≠ []) (spelled : SpelledBy count cs number)
    (short : ∀ n value, code n = some value → value.length ≤ front.length + count)
    (h : coded code number = some (value, rest)) :
    Spends units value.length (front ++ cs) rest := by
  obtain ⟨⟨n, _⟩, found, h⟩ := Option.bind_eq_some_iff.mp h
  obtain ⟨_, unit, same⟩ := Option.map_eq_some_iff.mp h
  cases same
  obtain ⟨used, rfl, enough⟩ := spelled _ _ found
  refine ⟨front ++ used, (List.append_assoc _ _ _).symm, ?_⟩
  have bound := short _ _ unit
  have written := length_le_flatMap nonempty (front ++ used)
  rw [List.length_append] at written
  omega

theorem coded_upTo_spends {bound : Nat} {number : Option (Nat × List Char)} (front : List Char)
    (nonempty : ∀ c, units c ≠ []) (spelled : SpelledBy (count + 1) cs number)
    (h : coded (upTo bound) number = some (value, rest)) :
    Spends units value.length (front ++ cs) rest := by
  refine coded_spends front nonempty spelled (fun n value unit => ?_) h
  obtain ⟨_, same⟩ := Option.ite_none_right_eq_some.mp unit
  cases same
  exact Nat.le_trans (Nat.le_add_left 1 count) (Nat.le_add_left _ _)

theorem backslash_spends {short : List (Char × Nat)}
    {other : List Char → Option (List Nat × List Char)} (nonempty : ∀ c, units c ≠ [])
    (others : ∀ {cs value rest}, other cs = some (value, rest) →
      Spends units value.length cs rest)
    (h : backslash short other cs = some (value, rest)) :
    Spends units (value.length + 1) cs rest := by
  unfold backslash at h
  split at h
  · rename_i c behind
    refine .cons (nonempty _) ?_
    split at h
    · cases h
      exact ⟨[c], rfl, length_le_flatMap nonempty [c]⟩
    · exact others h
  · cases h

end Escapes

end ClientGen.Text
