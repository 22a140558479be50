import ClientGen.Json.Printer
import ClientGen.Proofs.Json.Fields
import ClientGen.Proofs.Text.Literal

/-! # Reading printed strings back

The reader undoes every escape that the printer writes. Lines and columns only matter to errors,
so the statements keep track of nothing but the unread characters.
-/

namespace ClientGen.Json

open Text

variable {α β : Type}

/-- Reading succeeds with `x` and leaves the characters `rest` unread. -/
def Leaves (rest : List Char) (x : α) (result : Except ReadError (α × Cursor)) : Prop :=
  ∃ cursor, result = .ok (x, cursor) ∧ cursor.rest = rest

theorem Leaves.bind {rest rest' : List Char} {x : α} {y : β}
    {result : Except ReadError (α × Cursor)} {next : α × Cursor → Except ReadError (β × Cursor)}
    (first : Leaves rest x result)
    (then_ : ∀ cursor : Cursor, cursor.rest = rest → Leaves rest' y (next (x, cursor))) :
    Leaves rest' y (result >>= next) := by
  obtain ⟨cursor, rfl, unread⟩ := first
  exact then_ cursor unread

section Escapes

variable {cursor : Cursor} {c : Char} {cs rest : List Char} {fuel : Nat}

theorem next_rest (unread : cursor.rest = c :: rest) : cursor.next.rest = rest := by
  rw [Cursor.next, unread]
  simp only [Cursor.past]
  split <;> rfl

theorem skipBytes_rest (short : ∀ c ∈ cs, c.utf8Size = 1) :
    (Cursor.skipBytes cs.length (cs ++ rest) cursor).rest = rest := by
  induction cs generalizing cursor with
  | nil =>
      cases rest with
      | nil => rfl
      | cons c rest => simp [Cursor.skipBytes]
  | cons c cs ih =>
      rw [List.cons_append, Cursor.skipBytes, List.length_cons, if_neg (Nat.succ_ne_zero _),
        short c (.head _), Nat.add_sub_cancel]
      exact ih fun d mem => short d (.tail _ mem)

/-- The two digits that the number of a control character has behind its zeros. -/
theorem hexDigits_control {n : Nat} (control : n < 32) :
    hexDigits 4 n = ['0', '0', (n / 16).digitChar, (n % 16).digitChar] := by
  revert n
  decide

theorem utf8Size_digitChar {n : Nat} (digit : n < 16) : n.digitChar.utf8Size = 1 := by
  revert n
  decide

theorem readHex_hexDigits {n : Nat} (control : n < 32)
    (unread : cursor.rest = hexDigits 4 n ++ rest) : Leaves rest n (readHex cursor) := by
  have high : n / 16 < 16 := by omega
  have low : n % 16 < 16 := by omega
  have number : n / 16 * 16 + n % 16 = n := by omega
  have short : ∀ c ∈ ['0', '0', (n / 16).digitChar, (n % 16).digitChar], c.utf8Size = 1 := by
    simp [utf8Size_digitChar high, utf8Size_digitChar low]
    decide
  refine ⟨Cursor.skipBytes 4 cursor.rest cursor, ?_, ?_⟩
  · have zero : hexValue? '0' = some 0 := by decide
    have zeroSize : '0'.utf8Size = 1 := by decide
    rw [readHex, unread, hexDigits_control control]
    simp [zero, zeroSize, utf8Size_digitChar high, utf8Size_digitChar low,
      hexValue?_digitChar high, hexValue?_digitChar low, number]
  · rw [unread, hexDigits_control control]
    exact skipBytes_rest short

theorem readUnicode_hexDigits (control : c.toNat < 32)
    (unread : cursor.rest = hexDigits 4 c.toNat ++ rest) :
    Leaves rest c (readUnicode cursor) := by
  rw [readUnicode]
  refine (readHex_hexDigits control unread).bind fun cursor' unread' => ⟨cursor', ?_, unread'⟩
  have noLow : ¬ 0xDC00 ≤ c.toNat := by omega
  have noHigh : c.toNat < 0xD800 := by omega
  simp [noLow, noHigh]

theorem readEscape_unicode (control : c.toNat < 32)
    (unread : cursor.rest = 'u' :: (hexDigits 4 c.toNat ++ rest)) :
    Leaves rest c (readEscape cursor) := by
  simp only [readEscape, unread]
  exact readUnicode_hexDigits control (next_rest unread)

end Escapes

section Strings

variable {cursor : Cursor} {c : Char} {cs rest tail : List Char} {fuel : Nat}

theorem readChars_escape (unread : cursor.rest = '\\' :: rest) {rest' : List Char}
    (escape : ∀ cursor : Cursor, cursor.rest = rest → Leaves rest' c (readEscape cursor))
    (others : ∀ cursor : Cursor, cursor.rest = rest' → Leaves tail cs (readChars fuel cursor)) :
    Leaves tail (c :: cs) (readChars (fuel + 1) cursor) := by
  simp only [readChars, unread]
  exact (escape _ (next_rest unread)).bind fun cursor' unread' =>
    (others cursor' unread').bind fun cursor'' unread'' => ⟨cursor'', rfl, unread''⟩

theorem readChars_plain (unread : cursor.rest = c :: rest) (quote : c ≠ '"')
    (backslash : c ≠ '\\') (shown : ¬ c.toNat < 32)
    (others : ∀ cursor : Cursor, cursor.rest = rest → Leaves tail cs (readChars fuel cursor)) :
    Leaves tail (c :: cs) (readChars (fuel + 1) cursor) := by
  simp only [readChars, unread, if_neg shown]
  exact (others _ (next_rest unread)).bind fun cursor' unread' => ⟨cursor', rfl, unread'⟩

theorem readEscape_short {d : Char} (short : (c, d) ∈ shortEscapes)
    (unread : cursor.rest = d :: rest) : Leaves rest c (readEscape cursor) := by
  refine ⟨cursor.next, ?_, next_rest unread⟩
  rw [readEscape, unread]
  simp only [shortEscapes, List.mem_cons, Prod.mk.injEq, List.not_mem_nil, or_false] at short
  rcases short with short | short | short | short | short | short | short
  all_goals
    obtain ⟨rfl, rfl⟩ := short
    rfl

/-- One escape of the printer is one step of the reader. -/
theorem readChars_escapeJson (unread : cursor.rest = escapeJson c ++ rest)
    (others : ∀ cursor : Cursor, cursor.rest = rest → Leaves tail cs (readChars fuel cursor)) :
    Leaves tail (c :: cs) (readChars (fuel + 1) cursor) := by
  obtain ⟨d, short, same⟩ | ⟨control, same⟩ | ⟨quote, backslash, visible, same⟩ :=
    escapeJson_cases c
  · rw [same] at unread
    exact readChars_escape unread (fun cursor unread => readEscape_short short unread) others
  · rw [same] at unread
    exact readChars_escape unread (fun cursor unread => readEscape_unicode control unread) others
  · rw [same] at unread
    exact readChars_plain unread quote backslash visible others

theorem readChars_quoted (enough : cs.length < fuel)
    (unread : cursor.rest = cs.flatMap escapeJson ++ '"' :: rest) :
    Leaves rest cs (readChars fuel cursor) := by
  induction cs generalizing fuel cursor with
  | nil =>
      obtain ⟨fuel, rfl⟩ := Nat.exists_eq_succ_of_ne_zero (Nat.ne_of_gt enough)
      rw [List.flatMap_nil, List.nil_append] at unread
      simp only [readChars, unread]
      exact ⟨_, rfl, next_rest unread⟩
  | cons c cs ih =>
      obtain ⟨fuel, rfl⟩ := Nat.exists_eq_succ_of_ne_zero (Nat.ne_zero_of_lt enough)
      rw [List.flatMap_cons, List.append_assoc] at unread
      exact readChars_escapeJson unread fun cursor unread =>
        ih (Nat.lt_of_succ_lt_succ enough) unread

/-- No character is dropped: the escapes are at least as long as the text. -/
theorem length_le_flatMap_escapeJson : cs.length ≤ (cs.flatMap escapeJson).length := by
  have nonempty (c : Char) : 1 ≤ (escapeJson c).length := by
    obtain ⟨_, _, same⟩ | ⟨_, same⟩ | ⟨_, _, _, same⟩ := escapeJson_cases c
    all_goals simp [same]
  induction cs with
  | nil => exact Nat.le_refl 0
  | cons c cs ih =>
      rw [List.flatMap_cons, List.length_append, List.length_cons]
      have := nonempty c
      omega

theorem readString_quoted {s : String}
    (unread : cursor.rest = s.toList.flatMap escapeJson ++ '"' :: rest) :
    Leaves rest s (readString cursor) := by
  have enough : s.toList.length < cursor.rest.length + 1 := by
    have : s.toList.length ≤ _ := length_le_flatMap_escapeJson
    rw [unread, List.length_append]
    omega
  rw [readString]
  refine (readChars_quoted enough unread).bind fun cursor' unread' => ⟨cursor', ?_, unread'⟩
  show Except.ok (String.ofList s.toList, cursor') = _
  rw [String.ofList_toList]

/-- The string at the front of a text, and what follows it. -/
def string? (s : String) : Option (String × String) :=
  match s.toList with
  | '"' :: cs =>
    match readString ⟨cs, 1, 1⟩ with
    | .ok (text, cursor) => some (text, String.ofList cursor.rest)
    | .error _ => none
  | _ => none

theorem toList_quoted (s : String) :
    (quoted s).toList = '"' :: (s.toList.flatMap escapeJson ++ ['"']) := by
  rw [quoted, Quoting.quote, String.toList_ofList]
  rfl

theorem string?_quoted (s : String) : string? (quoted s) = some (s, "") := by
  have unread : (Cursor.mk (s.toList.flatMap escapeJson ++ ['"']) 1 1).rest =
      s.toList.flatMap escapeJson ++ ['"'] := rfl
  obtain ⟨cursor, read, finished⟩ := readString_quoted unread
  simp only [string?, toList_quoted, read, finished, String.ofList_nil]

theorem skipSpace_eq (unread : cursor.rest.takeWhile Cursor.isSpace = []) :
    cursor.skipSpace = cursor := by
  rw [Cursor.skipSpace, unread, List.foldl_nil]

theorem readValue_quoted {s : String} {depth : Nat}
    (unread : cursor.rest = '"' :: (s.toList.flatMap escapeJson ++ '"' :: rest)) :
    Leaves rest (.str s) (readValue (fuel + 1) depth cursor) := by
  have noSpace : cursor.skipSpace = cursor := skipSpace_eq (by rw [unread]; rfl)
  simp only [readValue, noSpace, unread]
  exact (readString_quoted (next_rest unread)).bind fun cursor' unread' =>
    ⟨cursor', rfl, unread'⟩

theorem parse_quoted (s : String) : parse (quoted s) = .ok (.str s) := by
  have unread : (Cursor.ofString (quoted s)).rest =
      '"' :: (s.toList.flatMap escapeJson ++ ['"']) := by
    rw [Cursor.ofString, toList_quoted]
  obtain ⟨cursor, read, finished⟩ : Leaves [] (.str s) (readValue
      (Cursor.ofString (quoted s)).budget maxDepth (Cursor.ofString (quoted s))) :=
    readValue_quoted unread
  have ended : readEnd cursor = .ok () := by
    have noSpace : cursor.skipSpace = cursor := skipSpace_eq (by rw [finished]; rfl)
    simp only [readEnd, noSpace, finished]
  rw [parse]
  exact bind_ok read (bind_ok ended rfl)

end Strings

end ClientGen.Json
