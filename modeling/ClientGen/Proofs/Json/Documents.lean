import ClientGen.Proofs.Json.Numbers
import Mathlib.Data.List.Forall2

/-! # Reading documents

The reader follows the grammar: where a text spells a whole number, the value that has been read
holds that number, if it fits, and a floating-point number otherwise. Nothing is said about texts
that the reader refuses.
-/

namespace ClientGen.Json

open Text

section Strings

variable {cursor : Cursor} {c : Char} {cs rest s : List Char} {n fuel : Nat}

theorem utf8Size_of_hexValue? (h : hexValue? c = some n) : c.utf8Size = 1 := by
  refine Char.utf8Size_eq_one_iff.mpr ?_
  unfold hexValue? at h
  split at h
  · rename_i digit
    simp only [Char.isDigit, ge_iff_le, Bool.and_eq_true, decide_eq_true_eq] at digit
    exact UInt32.le_trans digit.2 (by decide)
  · split at h
    · rename_i lower
      simp only [Bool.and_eq_true, decide_eq_true_eq] at lower
      exact UInt32.le_trans lower.2 (by decide)
    · obtain ⟨upper, -⟩ := Option.ite_none_right_eq_some.mp h
      simp only [Bool.and_eq_true, decide_eq_true_eq] at upper
      exact UInt32.le_trans upper.2 (by decide)

theorem hexNumber?_four {a b c d : Char} (h : hexNumber? [a, b, c, d] = some n) :
    ∃ i j k l, hexValue? a = some i ∧ hexValue? b = some j ∧ hexValue? c = some k ∧
      hexValue? d = some l ∧ n = ((i * 16 + j) * 16 + k) * 16 + l := by
  simp only [hexNumber?, List.foldlM_cons, List.foldlM_nil, Option.bind_eq_bind,
    Option.bind_eq_some_iff, Option.map_eq_some_iff, Option.pure_def] at h
  obtain ⟨_, ⟨i, first, rfl⟩, _, ⟨j, second, rfl⟩, _, ⟨k, third, rfl⟩, _, ⟨l, fourth, rfl⟩, same⟩ :=
    h
  cases same
  exact ⟨i, j, k, l, first, second, third, fourth, by omega⟩

theorem readHex_spelled (spelled : SpellsHex cs n rest) (unread : cursor.rest = cs) :
    Leaves rest n (readHex cursor) := by
  obtain ⟨digits, rfl, four, number⟩ := spelled
  obtain ⟨a, b, c, d, rfl⟩ : ∃ a b c d, digits = [a, b, c, d] := by
    match digits, four with
    | [a, b, c, d], _ => exact ⟨a, b, c, d, rfl⟩
  obtain ⟨i, j, k, l, first, second, third, fourth, rfl⟩ := hexNumber?_four number
  have short : ∀ e ∈ [a, b, c, d], e.utf8Size = 1 := by
    simp [utf8Size_of_hexValue? first, utf8Size_of_hexValue? second,
      utf8Size_of_hexValue? third, utf8Size_of_hexValue? fourth]
  refine ⟨Cursor.skipBytes 4 cursor.rest cursor, ?_, ?_⟩
  · rw [readHex, unread]
    simp [first, second, third, fourth, utf8Size_of_hexValue? first, utf8Size_of_hexValue? second,
      utf8Size_of_hexValue? third, utf8Size_of_hexValue? fourth]
  · rw [unread]
    exact skipBytes_rest short

theorem readPairMark_eq {mark : Char} (unread : cursor.rest = mark :: rest) :
    readPairMark mark cursor = .ok cursor.next := by
  rw [readPairMark, unread]
  exact if_pos rfl

theorem readEscape_spelled (spelled : SpellsEscape cs c rest) (unread : cursor.rest = cs) :
    Leaves rest c (readEscape cursor) := by
  cases spelled with
  | short short => exact readEscape_short short unread
  | slash =>
      rw [readEscape, unread]
      exact ⟨_, rfl, next_rest unread⟩
  | @number _ n _ hex whole =>
      simp only [readEscape, unread]
      rw [readUnicode]
      refine (readHex_spelled hex (next_rest unread)).bind fun cursor' unread' => ?_
      have noLow : ¬ (0xDC00 ≤ n ∧ n ≤ 0xDFFF) := by omega
      have noHigh : n < 0xD800 ∨ 0xDBFF < n := by omega
      exact ⟨cursor', by simp [noLow, noHigh], unread'⟩
  | @halves _ _ high low _ first second highFrom highTo lowFrom lowTo =>
      simp only [readEscape, unread]
      rw [readUnicode]
      refine (readHex_spelled first (next_rest unread)).bind fun cursor' unread' => ?_
      have noLow : ¬ (0xDC00 ≤ high ∧ high ≤ 0xDFFF) := by omega
      have isHigh : ¬ (high < 0xD800 ∨ 0xDBFF < high) := by omega
      have isLow : ¬ (low < 0xDC00 ∨ 0xDFFF < low) := by omega
      have behind := next_rest unread'
      simp only [Bool.and_eq_true, Bool.or_eq_true, decide_eq_true_eq, if_neg noLow, if_neg isHigh]
      rw [readPairMark_eq unread']
      show Leaves rest _ (readPairMark 'u' cursor'.next >>= _)
      rw [readPairMark_eq behind]
      refine (readHex_spelled second (next_rest behind)).bind fun cursor'' unread'' => ?_
      exact ⟨cursor'', by simp [isLow], unread''⟩

theorem reads_chars (spelled : SpellsChars cs s rest) (unread : cursor.rest = cs) :
    Reads rest (· = s) (readChars fuel cursor) := by
  induction spelled generalizing fuel cursor with
  | done =>
      cases fuel with
      | zero => exact .fail
      | succ fuel =>
          simp only [readChars, unread]
          exact .ok (next_rest unread) rfl
  | plain quote backslash shown _ ih =>
      cases fuel with
      | zero => exact .fail
      | succ fuel =>
          simp only [readChars, unread, if_neg shown]
          exact (ih (next_rest unread)).bind fun _ _ unread same => .ok unread (by rw [same])
  | escape escape _ ih =>
      cases fuel with
      | zero => exact .fail
      | succ fuel =>
          simp only [readChars, unread]
          refine (readEscape_spelled escape (next_rest unread)).reads.bind ?_
          rintro c cursor unread rfl
          exact (ih unread).bind fun _ _ unread same => .ok unread (by rw [same])

theorem reads_string (spelled : SpellsChars cs s rest) (unread : cursor.rest = cs) :
    Reads rest (· = String.ofList s) (readString cursor) :=
  (reads_chars spelled unread).bind fun _ _ unread same => .ok unread (by rw [same])

end Strings

section Marks

variable {cursor : Cursor} {c : Char} {cs rest : List Char}

theorem skipSpace_rest : cursor.skipSpace.rest = skipped cursor.rest := by
  have moved (blanks : List Char) (cursor : Cursor) (rest : List Char)
      (unread : cursor.rest = blanks ++ rest) :
      (blanks.foldl (fun cursor _ => cursor.next) cursor).rest = rest := by
    induction blanks generalizing cursor with
    | nil => exact unread
    | cons c blanks ih => exact ih cursor.next (next_rest unread)
  exact moved _ _ _ List.takeWhile_append_dropWhile.symm

theorem skipped_skipped (cs : List Char) : skipped (skipped cs) = skipped cs := by
  have stops := List.head?_dropWhile_not Cursor.isSpace cs
  unfold skipped
  split at stops
  · rename_i c found
    obtain ⟨rest, same⟩ := List.head?_eq_some_iff.mp found
    rw [same, List.dropWhile_cons_of_neg (by rw [stops]; exact Bool.false_ne_true)]
  · rename_i empty
    rw [List.head?_eq_none_iff.mp empty]
    rfl

theorem readWord_eq {word : List Char} (unread : cursor.rest = word ++ rest) :
    ∃ cursor', readWord word cursor = .ok cursor' ∧ cursor'.rest = rest := by
  induction word generalizing cursor with
  | nil => exact ⟨cursor, rfl, unread⟩
  | cons c word ih =>
      rw [List.cons_append] at unread
      simp only [readWord, unread, if_pos]
      exact ih (next_rest unread)

theorem readColon_eq (unread : skipped cursor.rest = ':' :: rest) :
    ∃ cursor', readColon cursor = .ok cursor' ∧ cursor'.rest = rest := by
  rw [← skipSpace_rest] at unread
  refine ⟨cursor.skipSpace.next, ?_, next_rest unread⟩
  simp only [readColon, unread]

theorem startsValue_ne (starts : startsValue c = true) : c ≠ ']' := by
  rintro rfl
  exact absurd starts (by decide)

theorem moreElements_done (first : Bool) (ended : skipped cursor.rest = ']' :: rest) :
    Leaves (']' :: rest) false (moreElements first cursor) := by
  rw [← skipSpace_rest] at ended
  refine ⟨cursor.skipSpace, ?_, ended⟩
  simp only [moreElements, ended]

theorem moreElements_more {first : Bool} (separated : SpellsSeparator first cursor.rest rest)
    (found : skipped rest = c :: cs) (starts : startsValue c = true) :
    Leaves (c :: cs) true (moreElements first cursor) := by
  have noBracket := startsValue_ne starts
  cases first with
  | true =>
      obtain rfl : rest = cursor.rest := separated
      rw [← skipSpace_rest] at found
      refine ⟨cursor.skipSpace, ?_, found⟩
      simp only [moreElements, found, if_pos]
  | false =>
      have comma : cursor.skipSpace.rest = ',' :: rest := skipSpace_rest.trans separated
      rw [← next_rest comma, ← skipSpace_rest] at found
      refine ⟨cursor.skipSpace.next.skipSpace, ?_, found⟩
      simp [moreElements, comma, found, noBracket]

theorem moreFields_done (first : Bool) (ended : skipped cursor.rest = '\x7d' :: rest) :
    Leaves ('\x7d' :: rest) false (moreFields first cursor) := by
  rw [← skipSpace_rest] at ended
  refine ⟨cursor.skipSpace, ?_, ended⟩
  simp only [moreFields, ended]

theorem moreFields_more {first : Bool} (separated : SpellsSeparator first cursor.rest rest)
    (found : skipped rest = '"' :: cs) :
    Leaves ('"' :: cs) true (moreFields first cursor) := by
  cases first with
  | true =>
      obtain rfl : rest = cursor.rest := separated
      rw [← skipSpace_rest] at found
      refine ⟨cursor.skipSpace, ?_, found⟩
      simp [moreFields, found]
  | false =>
      have comma : cursor.skipSpace.rest = ',' :: rest := skipSpace_rest.trans separated
      rw [← next_rest comma, ← skipSpace_rest] at found
      refine ⟨cursor.skipSpace.next.skipSpace, ?_, found⟩
      simp [moreFields, comma, found]

end Marks

/-- A step into a value: to a field of an object, or to an item of a list. -/
inductive Step where
  | field (name : String)
  | item (index : Nat)

def Step.from? : Step → Json → Option Json
  | .field name, v => v.field? name
  | .item index, .arr items => items[index]?
  | .item _, _ => none

/-- What stands at the end of a path. -/
def at? : List Step → Json → Option Json
  | [], v => some v
  | step :: path, v => (step.from? v).bind (at? path)

/-- Where `v` has a whole number, `w` has what this number is stored as. -/
def Kept (v w : Json) : Prop :=
  ∀ path i, at? path v = some (.int i) → ∃ u, at? path w = some u ∧ StoredAs i u

/-- The same for the fields of objects. -/
def KeptFields (fields others : List (String × Json)) : Prop :=
  ∀ name v, fields.lookup name = some v → ∃ w, others.lookup name = some w ∧ Kept v w

section Places

variable {v w : Json} {items others : List Json} {fields found : List (String × Json)}
  {name : String}

theorem kept_of_steps (noInt : ∀ i, v ≠ .int i)
    (steps : ∀ (step : Step) (x : Json), step.from? v = some x →
      ∃ y, step.from? w = some y ∧ Kept x y) : Kept v w := by
  intro path i reached
  cases path with
  | nil => exact absurd (Option.some.inj reached) (noInt i)
  | cons step path =>
      obtain ⟨x, stepped, reached⟩ := Option.bind_eq_some_iff.mp reached
      obtain ⟨y, stepped', kept⟩ := steps step x stepped
      obtain ⟨u, reached', stored⟩ := kept path i reached
      exact ⟨u, by rw [at?, stepped', Option.bind_some, reached'], stored⟩

/-- Whether a value is without parts and no whole number. -/
def isLeaf : Json → Bool
  | .null | .bool _ | .float _ | .str _ => true
  | .int _ | .arr _ | .obj _ => false

theorem kept_leaf (leaf : isLeaf v = true) : Kept v w := by
  refine kept_of_steps (fun i same => ?_) fun step x stepped => ?_
  · subst same
    cases leaf
  · cases v with
    | int | arr | obj => cases leaf
    | null | bool | float | str => cases step <;> cases stepped

theorem kept_int {i : Int} (stored : StoredAs i w) : Kept (.int i) w := by
  intro path j reached
  cases path with
  | nil =>
      cases reached
      exact ⟨w, rfl, stored⟩
  | cons step path => cases step <;> cases reached

theorem kept_arr (kept : List.Forall₂ Kept items others) : Kept (.arr items) (.arr others) := by
  have each (index : Nat) (x : Json) (h : items[index]? = some x) :
      ∃ y, others[index]? = some y ∧ Kept x y := by
    induction kept generalizing index with
    | nil => cases h
    | cons first _ ih =>
        cases index with
        | zero =>
            cases h
            exact ⟨_, rfl, first⟩
        | succ index => exact ih index h
  refine kept_of_steps nofun fun step x stepped => ?_
  cases step with
  | field name => cases stepped
  | item index => exact each index x stepped

theorem kept_obj (kept : KeptFields fields found) : Kept (.obj fields) (.obj found) := by
  refine kept_of_steps nofun fun step x stepped => ?_
  cases step with
  | field name => exact kept name x stepped
  | item index => cases stepped

theorem KeptFields.insert (kept : KeptFields fields found) (value : Kept v w) :
    KeptFields (insertField name v fields) (insertField name w found) := by
  intro key x lookup
  rw [(insertField_putsInOrder.inserts _ _ _).lookup_eq] at lookup ⊢
  split at lookup
  · cases lookup
    rename_i same
    exact ⟨w, if_pos same, value⟩
  · rename_i other
    rw [if_neg other]
    exact kept key x lookup

end Places

/-- What the reader does with this fuel. -/
structure ReadsWith (fuel : Nat) : Prop where
  value {cs v rest} : SpellsValue (skipped cs) v rest → ∀ (depth : Nat) (cursor : Cursor),
    cursor.rest = cs → Reads rest (Kept v) (readValue fuel depth cursor)
  items {first cs items rest} : SpellsItems first cs items rest →
    ∀ (depth : Nat) (cursor : Cursor), cursor.rest = cs →
    Reads rest (List.Forall₂ Kept items) (readElements fuel depth first cursor)
  fields {first cs fields rest} : SpellsFields first cs fields rest →
    ∀ (depth : Nat) (cursor : Cursor) (held found : List (String × Json)), cursor.rest = cs →
    KeptFields held found → Reads rest
      (KeptFields (fields.foldl (fun sorted field => insertField field.1 field.2 sorted) held))
      (readFields fuel depth first found cursor)

section Values

variable {fuel depth : Nat} {cursor : Cursor} {c : Char} {cs rest : List Char} {v : Json}

theorem readValue_digit (unread : cursor.skipSpace.rest = c :: cs) (digit : c.isDigit = true) :
    readValue (fuel + 1) depth cursor = readNumber true cursor.skipSpace := by
  have other {d : Char} (noDigit : d.isDigit = false) : c ≠ d := by
    rintro rfl
    cases digit.symm.trans noDigit
  simp only [readValue, unread, if_pos digit, if_neg (other (d := 'n') rfl),
    if_neg (other (d := 't') rfl), if_neg (other (d := 'f') rfl), if_neg (other (d := '-') rfl)]

theorem readValue_minus (unread : cursor.skipSpace.rest = '-' :: cs) :
    readValue (fuel + 1) depth cursor = readNumber false cursor.skipSpace.next := by
  simp [readValue, unread]

theorem reads_digits {P : Json → Prop} {n : Nat}
    (unread : cursor.skipSpace.rest = Nat.toDigits 10 n ++ cs)
    (number : Reads rest P (readNumber true cursor.skipSpace)) :
    Reads rest P (readValue (fuel + 1) depth cursor) := by
  obtain ⟨c, others, found⟩ := List.exists_cons_of_ne_nil
    (Nat.toDigits_ne_nil (n := n) (b := 10))
  rw [found, List.cons_append] at unread
  rw [readValue_digit unread (isDigit_toDigits_head found)]
  exact number

theorem reads_word (word : List Char) (unread : cursor.rest = word ++ rest) (kept : Kept v v) :
    Reads rest (Kept v) (do return (v, ← readWord word cursor)) := by
  obtain ⟨cursor', read, unread'⟩ := readWord_eq unread
  rw [read]
  exact .ok unread' kept

theorem reads_value (ih : ReadsWith fuel) (spelled : SpellsValue (skipped cs) v rest)
    (unread : cursor.rest = cs) : Reads rest (Kept v) (readValue (fuel + 1) depth cursor) := by
  subst unread
  rw [← skipSpace_rest] at spelled
  generalize unread : cursor.skipSpace.rest = cs at spelled
  cases spelled with
  | nullWord =>
      have word := reads_word ['u', 'l', 'l'] (next_rest unread)
        (show Kept .null .null from kept_leaf rfl)
      simpa [readValue, unread] using word
  | trueWord =>
      have word := reads_word ['r', 'u', 'e'] (next_rest unread)
        (show Kept (.bool true) (.bool true) from kept_leaf rfl)
      simpa [readValue, unread] using word
  | falseWord =>
      have word := reads_word ['a', 'l', 's', 'e'] (next_rest unread)
        (show Kept (.bool false) (.bool false) from kept_leaf rfl)
      simpa [readValue, unread] using word
  | whole n ended =>
      exact reads_digits unread ((reads_whole ended unread).mono fun _ => kept_int)
  | negative nonzero ended =>
      rw [readValue_minus unread]
      exact (reads_negative nonzero ended (next_rest unread)).mono fun _ => kept_int
  | minusZero x ended =>
      rw [readValue_minus unread]
      exact (reads_minusZero ended (next_rest unread)).mono fun _ _ => kept_leaf rfl
  | float x n tail =>
      exact reads_digits unread ((reads_float tail unread).mono fun _ _ => kept_leaf rfl)
  | negativeFloat x n tail =>
      rw [readValue_minus unread]
      exact (reads_float tail (next_rest unread)).mono fun _ _ => kept_leaf rfl
  | str chars =>
      simp only [readValue, unread]
      exact (reads_string chars (next_rest unread)).bind fun _ _ unread _ =>
        .ok unread (kept_leaf rfl)
  | arr items =>
      simp only [readValue, unread]
      show Reads rest _ (if depth ≤ 1 then _ else
        readElements fuel (depth - 1) true cursor.skipSpace.next >>= _)
      split
      · exact .failAtNext
      · exact (ih.items items _ _ (next_rest unread)).bind fun _ _ unread kept =>
          .ok unread (kept_arr kept)
  | obj fields =>
      have none : KeptFields [] [] := fun _ _ found => by cases found
      simp only [readValue, unread]
      show Reads rest _ (if depth ≤ 1 then _ else
        readFields fuel (depth - 1) true [] cursor.skipSpace.next >>= _)
      split
      · exact .failAtNext
      · exact (ih.fields fields _ _ _ _ (next_rest unread) none).bind fun _ _ unread kept =>
          .ok unread (kept_obj kept)

theorem reads_items {first : Bool} {items : List Json} (ih : ReadsWith fuel)
    (spelled : SpellsItems first cs items rest) (unread : cursor.rest = cs) :
    Reads rest (List.Forall₂ Kept items) (readElements (fuel + 1) depth first cursor) := by
  subst unread
  rw [readElements]
  cases spelled with
  | done ended =>
      obtain ⟨cursor', read, unread'⟩ := moreElements_done first ended
      rw [read]
      exact .ok (next_rest unread') .nil
  | more separated value others =>
      obtain ⟨c, cs', found, starts⟩ := value.exists_cons
      obtain ⟨cursor', read, unread'⟩ := moreElements_more separated found starts
      rw [read]
      show Reads rest _ (readValue fuel depth cursor' >>= _)
      rw [← found] at unread'
      refine (ih.value (unread' ▸ (skipped_skipped _).symm ▸ value) depth cursor' rfl).bind
        fun w cursor'' unread'' kept => ?_
      exact (ih.items others depth cursor'' unread'').bind fun _ _ unread all =>
        .ok unread (.cons kept all)

theorem reads_fields {first : Bool} {fields held found : List (String × Json)}
    (ih : ReadsWith fuel) (spelled : SpellsFields first cs fields rest) (unread : cursor.rest = cs)
    (kept : KeptFields held found) : Reads rest
      (KeptFields (fields.foldl (fun sorted field => insertField field.1 field.2 sorted) held))
      (readFields (fuel + 1) depth first found cursor) := by
  subst unread
  rw [readFields]
  cases spelled with
  | done ended =>
      obtain ⟨cursor', read, unread'⟩ := moreFields_done first ended
      rw [read]
      exact .ok (next_rest unread') kept
  | more separated opening name colon value others =>
      obtain ⟨cursor', read, unread'⟩ := moreFields_more separated opening
      rw [read]
      show Reads rest _ (readString cursor'.next >>= _)
      refine (reads_string name (next_rest unread')).bind ?_
      rintro _ cursor₁ unread₁ rfl
      obtain ⟨cursor₂, read₂, unread₂⟩ := readColon_eq (unread₁ ▸ colon)
      show Reads rest _ (readColon cursor₁ >>= _)
      rw [read₂]
      show Reads rest _ (readValue fuel depth cursor₂ >>= _)
      refine (ih.value value depth cursor₂ unread₂).bind fun w cursor₃ unread₃ stored => ?_
      exact ih.fields others depth cursor₃ _ _ unread₃ (kept.insert stored)

/-- One step of fuel for each value and for each of the parts of a list or an object. -/
theorem readsWith : ∀ fuel, ReadsWith fuel
  | 0 => {
      value := fun _ _ _ _ => .fail
      items := fun _ _ _ _ => .fail
      fields := fun _ _ _ _ _ _ _ => .fail }
  | fuel + 1 => {
      value := fun spelled _ _ unread => reads_value (readsWith fuel) spelled unread
      items := fun spelled _ _ unread => reads_items (readsWith fuel) spelled unread
      fields := fun spelled _ _ _ _ unread kept =>
        reads_fields (readsWith fuel) spelled unread kept }

/-- What has been read of a text holds the whole numbers that the text spells. -/
theorem parse_kept {content : String} {w : Json} (spelled : Spells content v)
    (read : parse content = .ok w) : Kept v w := by
  obtain ⟨rest, spelled, -⟩ := spelled
  obtain ⟨⟨u, cursor⟩, found, read⟩ := bind_eq_ok.mp read
  obtain ⟨_, -, same⟩ := bind_eq_ok.mp read
  cases same
  exact ((readsWith _).value spelled _ _ rfl _ _ found).2

end Values

end ClientGen.Json
