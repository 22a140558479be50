import ClientGen.Proofs.Json.Grammar
import ClientGen.Proofs.Json.Strings

/-! # Reading numbers

What the reader makes of a number. A whole number is kept if it fits; a longer one, and one with a
fraction or an exponent, becomes floating-point.
-/

namespace ClientGen.Json

variable {α β : Type}

/-- If reading succeeds, it leaves the characters `rest` unread and gives something with the
    property `P`. -/
def Reads (rest : List Char) (P : α → Prop) (result : Except ReadError (α × Cursor)) : Prop :=
  ∀ x cursor, result = .ok (x, cursor) → cursor.rest = rest ∧ P x

namespace Reads

variable {rest rest' : List Char} {P : α → Prop} {Q : β → Prop} {cursor : Cursor} {fault : Fault}

theorem fail : Reads rest P (cursor.fail fault) := nofun

theorem failAtNext : Reads rest P (cursor.failAtNext fault) := by
  unfold Cursor.failAtNext
  split <;> exact fail

theorem ok {x : α} (unread : cursor.rest = rest) (h : P x) : Reads rest P (.ok (x, cursor)) := by
  rintro _ _ same
  cases same
  exact ⟨unread, h⟩

theorem mono {P' : α → Prop} {result : Except ReadError (α × Cursor)} (h : Reads rest P result)
    (weaker : ∀ x, P x → P' x) : Reads rest P' result :=
  fun x cursor read => ⟨(h x cursor read).1, weaker x (h x cursor read).2⟩

theorem bind {result : Except ReadError (α × Cursor)}
    {next : α × Cursor → Except ReadError (β × Cursor)} (first : Reads rest P result)
    (then_ : ∀ x cursor, cursor.rest = rest → P x → Reads rest' Q (next (x, cursor))) :
    Reads rest' Q (result >>= next) := by
  intro y cursor' done
  obtain ⟨⟨x, cursor⟩, read, done⟩ := bind_eq_ok.mp done
  obtain ⟨unread, h⟩ := first x cursor read
  exact then_ x cursor unread h y cursor' done

end Reads

theorem Leaves.reads {rest : List Char} {x : α} {result : Except ReadError (α × Cursor)}
    (h : Leaves rest x result) : Reads rest (· = x) result := by
  obtain ⟨cursor, rfl, unread⟩ := h
  exact .ok unread rfl

section Digits

variable {cursor : Cursor} {digits rest : List Char} {n count : Nat}

theorem le_ofDigitChars (digits : List Char) (n : Nat) : n ≤ Nat.ofDigitChars 10 digits n := by
  induction digits generalizing n with
  | nil => exact Nat.le_refl n
  | cons c cs ih =>
      rw [Nat.ofDigitChars_cons]
      have := ih (10 * n + (c.toNat - '0'.toNat))
      omega

/-- Digits are all taken if the number that they make fits. -/
theorem takeDigits_eq (count : Nat) (areDigits : ∀ c ∈ digits, c.isDigit = true)
    (fits : Nat.ofDigitChars 10 digits n ≤ maxWord) :
    takeDigits n count digits = (Nat.ofDigitChars 10 digits n, count + digits.length) := by
  induction digits generalizing n count with
  | nil => rfl
  | cons c cs ih =>
      rw [List.forall_mem_cons] at areDigits
      rw [Nat.ofDigitChars_cons] at fits ⊢
      have grown : n * 10 + (c.toNat - '0'.toNat) ≤ maxWord := by
        have := le_ofDigitChars cs (10 * n + (c.toNat - '0'.toNat))
        omega
      rw [takeDigits, if_pos areDigits.1]
      simp only [if_pos grown]
      rw [Nat.mul_comm n 10, ih (count + 1) areDigits.2 fits, List.length_cons]
      congr 1
      omega

theorem takeDigits_lt (count : Nat) (started : n ≤ maxWord)
    (exceeds : maxWord < Nat.ofDigitChars 10 digits n) :
    (takeDigits n count digits).2 < count + digits.length := by
  induction digits generalizing n count with
  | nil => exact absurd exceeds (Nat.not_lt.mpr started)
  | cons c cs ih =>
      rw [Nat.ofDigitChars_cons, Nat.mul_comm 10 n] at exceeds
      rw [takeDigits, List.length_cons]
      split
      · dsimp only
        split
        · rename_i grown
          have := ih (count + 1) grown exceeds
          omega
        · exact Nat.lt_add_of_pos_right (Nat.succ_pos _)
      · exact Nat.lt_add_of_pos_right (Nat.succ_pos _)

theorem digitRun_eq (unread : cursor.rest = digits ++ rest)
    (areDigits : ∀ c ∈ digits, c.isDigit = true) (ended : rest.takeWhile Char.isDigit = []) :
    digitRun cursor = digits := by
  rw [digitRun, unread, List.takeWhile_append_of_pos areDigits, ended, List.append_nil]

theorem skipChars_rest (unread : cursor.rest = digits ++ rest) :
    (skipChars cursor digits.length).rest = rest := by
  rw [skipChars, unread]
  exact List.drop_left

theorem skipDigits_rest (unread : cursor.rest = digits ++ rest)
    (areDigits : ∀ c ∈ digits, c.isDigit = true) (ended : rest.takeWhile Char.isDigit = []) :
    (skipDigits cursor).rest = rest := by
  rw [skipDigits, digitRun_eq unread areDigits ended]
  exact skipChars_rest unread

theorem EndsNumber.takeWhile_eq (ended : EndsNumber rest) : rest.takeWhile Char.isDigit = [] := by
  cases rest with
  | nil => rfl
  | cons c cs =>
      have stops := ended c rfl
      simp only [continuesNumber, Bool.or_eq_false_iff] at stops
      rw [List.takeWhile_cons_of_neg (by rw [stops.1.1.1]; exact Bool.false_ne_true)]

theorem exponentDigits_count {value : Int}
    (fits : (exponentDigits value count digits).2.2 = true) :
    (exponentDigits value count digits).2.1 = count + digits.length := by
  induction digits generalizing value count with
  | nil => rfl
  | cons c cs ih =>
      rw [exponentDigits] at fits ⊢
      split at fits
      · rename_i small
        rw [if_pos small, ih fits, List.length_cons]
        omega
      · cases fits

end Digits

section Floating

variable {cursor : Cursor} {cs digits rest : List Char} {positive : Bool} {significand : Nat}
  {start : Int}

def IsFloat (v : Json) : Prop :=
  ∃ x, v = .float x

theorem reads_fromParts (unread : cursor.rest = rest) :
    Reads rest IsFloat (fromParts positive significand start cursor) := by
  unfold fromParts
  split
  · exact .ok unread ⟨_, rfl⟩
  · exact .fail

theorem exponentSign_rest {sign : List Char} (signed : sign = [] ∨ sign = ['+'] ∨ sign = ['-'])
    (areDigits : AreDigits digits) (unread : cursor.rest = sign ++ (digits ++ rest)) :
    (exponentSign cursor).2.rest = digits ++ rest := by
  rcases signed with rfl | rfl | rfl
  · obtain ⟨d, ds, rfl⟩ := List.exists_cons_of_ne_nil areDigits.1
    have digit : d.isDigit = true := areDigits.2 d (.head _)
    rw [List.nil_append] at unread
    unfold exponentSign
    split
    · rename_i plus
      rw [unread] at plus
      cases plus
      exact absurd digit (by decide)
    · rename_i minus
      rw [unread] at minus
      cases minus
      exact absurd digit (by decide)
    · exact unread
  all_goals
    simp only [exponentSign, unread, List.cons_append]
    exact next_rest unread

theorem reads_readExponent (spelled : SpellsExponent cs rest) (unread : cursor.rest = cs) :
    Reads rest IsFloat (readExponent positive significand start cursor) := by
  obtain ⟨-, signed, digits, ended⟩ := spelled
  have behind := exponentSign_rest signed digits (next_rest unread)
  rw [readExponent]
  generalize exponentSign cursor.next = signed at behind ⊢
  obtain ⟨up, cursor⟩ := signed
  dsimp only at behind ⊢
  have run := digitRun_eq behind digits.2 ended.takeWhile_eq
  split
  · exact .fail
  · split
    · exact .failAtNext
    rw [run]
    split
    · rename_i fits
      rw [exponentDigits_count fits, Nat.zero_add]
      exact reads_fromParts (skipChars_rest behind)
    · split
      · exact .fail
      · exact .ok (skipDigits_rest behind digits.2 ended.takeWhile_eq) ⟨_, rfl⟩

theorem SpellsExponent.exists_cons (spelled : SpellsExponent cs rest) :
    ∃ c cs', cs = c :: cs' ∧ (c = 'e' ∨ c = 'E') := by
  obtain ⟨letter, -, -, -⟩ := spelled
  exact ⟨_, _, rfl, letter⟩

theorem SpellsExponent.takeWhile_eq (spelled : SpellsExponent cs rest) :
    cs.takeWhile Char.isDigit = [] := by
  obtain ⟨c, cs', rfl, rfl | rfl⟩ := spelled.exists_cons <;> rfl

theorem reads_readScale (spelled : SpellsExponent cs rest) (unread : cursor.rest = cs) :
    Reads rest IsFloat (readScale positive significand start cursor) := by
  obtain ⟨c, cs', rfl, rfl | rfl⟩ := spelled.exists_cons
  all_goals
    simp only [readScale, unread]
    exact reads_readExponent spelled unread

theorem reads_readScale_ended (ended : EndsNumber rest) (unread : cursor.rest = rest) :
    Reads rest IsFloat (readScale positive significand start cursor) := by
  unfold readScale
  split
  · rename_i letter
    exact absurd (ended 'e' (by rw [← unread, letter]; rfl)) (by decide)
  · rename_i letter
    exact absurd (ended 'E' (by rw [← unread, letter]; rfl)) (by decide)
  · exact reads_fromParts unread

theorem reads_readFraction {tail : List Char} (areDigits : AreDigits digits)
    (unread : cursor.rest = '.' :: (digits ++ tail)) (stops : tail.takeWhile Char.isDigit = [])
    (scaled : ∀ (cursor : Cursor) (significand : Nat) (exponent : Int), cursor.rest = tail →
      Reads rest IsFloat (readScale positive significand exponent cursor)) :
    Reads rest IsFloat (readFraction positive significand start cursor) := by
  have behind := next_rest unread
  have nonempty : digits.isEmpty = false := by simpa using areDigits.1
  rw [readFraction, digitRun_eq behind areDigits.2 stops, nonempty]
  exact scaled _ _ _ (skipDigits_rest behind areDigits.2 stops)

/-- What follows the whole part, whether the whole part has been too long or not. -/
theorem reads_tail (spelled : SpellsTail cs rest) (unread : cursor.rest = cs) :
    Reads rest IsFloat (readTail positive significand cursor) ∧
      ∀ dropped, Reads rest IsFloat (readLongTail positive significand dropped cursor) := by
  have fraction {digits tail : List Char} (areDigits : AreDigits digits)
      (unread : cursor.rest = '.' :: (digits ++ tail)) (stops : tail.takeWhile Char.isDigit = [])
      (scaled : ∀ (cursor : Cursor) (significand : Nat) (exponent : Int), cursor.rest = tail →
        Reads rest IsFloat (readScale positive significand exponent cursor)) :
      Reads rest IsFloat (readTail positive significand cursor) ∧
        ∀ dropped, Reads rest IsFloat (readLongTail positive significand dropped cursor) := by
    simp only [readTail, readLongTail, unread]
    exact ⟨reads_readFraction areDigits unread stops scaled,
      fun _ => reads_readFraction areDigits unread stops scaled⟩
  cases spelled with
  | fraction areDigits ended =>
      exact fraction areDigits unread ended.takeWhile_eq fun _ _ _ => reads_readScale_ended ended
  | both areDigits exponent =>
      exact fraction areDigits unread exponent.takeWhile_eq fun _ _ _ => reads_readScale exponent
  | exponent exponent =>
      obtain ⟨c, cs', rfl, rfl | rfl⟩ := exponent.exists_cons
      all_goals
        simp only [readTail, readLongTail, unread]
        exact ⟨reads_readExponent exponent unread, fun _ => reads_readScale exponent unread⟩

end Floating

section Whole

variable {cursor : Cursor} {cs rest tail : List Char} {positive : Bool} {n : Nat} {P : Json → Prop}

/-- What a whole number is read as: itself if it fits, else a floating-point number. -/
def StoredAs (i : Int) (v : Json) : Prop :=
  if minInt ≤ i ∧ i ≤ maxInt then v = .int i else IsFloat v

theorem toDigits_head_ne_zero {c : Char} (positive : 0 < n) (h : Nat.toDigits 10 n = c :: cs) :
    c ≠ '0' := by
  induction n using Nat.strongRecOn generalizing cs with
  | ind n ih =>
      by_cases small : n < 10
      · rw [Nat.toDigits_of_lt_base small] at h
        obtain ⟨rfl, -⟩ := List.cons.inj h
        have digits : ∀ n < 10, 0 < n → n.digitChar ≠ '0' := by decide
        exact digits n small positive
      · rw [Nat.toDigits_of_base_le (by decide) (by omega)] at h
        obtain ⟨d, ds, found⟩ := List.exists_cons_of_ne_nil
          (Nat.toDigits_ne_nil (n := n / 10) (b := 10))
        rw [found, List.cons_append] at h
        obtain ⟨rfl, -⟩ := List.cons.inj h
        exact ih (n / 10) (by omega) (by omega) found

/-- A number is read in two steps: its whole part first, as far as it fits, and then its tail. -/
theorem reads_readNumber (unread : cursor.rest = Nat.toDigits 10 n ++ tail)
    (stops : tail.takeWhile Char.isDigit = [])
    (short : ∀ cursor : Cursor, cursor.rest = tail → n ≤ maxWord →
      Reads rest P (readTail positive n cursor))
    (long : ∀ (cursor : Cursor) (significand dropped : Nat), cursor.rest = tail → maxWord < n →
      Reads rest P (readLongTail positive significand dropped cursor)) :
    Reads rest P (readNumber positive cursor) := by
  have areDigits : ∀ c ∈ Nat.toDigits 10 n, c.isDigit = true := fun _ =>
    Nat.isDigit_of_mem_toDigits (by decide) (Nat.le_refl 10)
  have value : Nat.ofDigitChars 10 (Nat.toDigits 10 n) 0 = n :=
    Nat.ofDigitChars_toDigits (by decide) (Nat.le_refl 10)
  have run := digitRun_eq unread areDigits stops
  have behind := skipDigits_rest unread areDigits stops
  rcases Nat.eq_zero_or_pos n with rfl | nonzero
  · rw [show Nat.toDigits 10 0 ++ tail = '0' :: tail from rfl] at unread
    have next := short cursor.next (next_rest unread) (Nat.zero_le _)
    cases tail with
    | nil => simpa only [readNumber, unread, if_pos] using next
    | cons c cs =>
        have noDigit : ¬ c.isDigit = true := by
          intro digit
          rw [List.takeWhile_cons_of_pos digit] at stops
          cases stops
        simpa only [readNumber, unread, if_pos, if_neg noDigit] using next
  · obtain ⟨c, others, found⟩ := List.exists_cons_of_ne_nil
      (Nat.toDigits_ne_nil (n := n) (b := 10))
    have digit : c.isDigit = true := areDigits c (by rw [found]; exact .head _)
    rw [found, List.cons_append] at unread
    simp only [readNumber, unread, if_neg (toDigits_head_ne_zero nonzero found), if_pos digit, run]
    rcases Nat.lt_or_ge maxWord n with exceeds | fits
    · have left := takeDigits_lt 0 (Nat.zero_le _) (value.symm ▸ exceeds)
      rw [Nat.zero_add] at left
      rw [if_neg (Nat.ne_of_lt left)]
      exact long _ _ _ behind exceeds
    · have taken := takeDigits_eq 0 areDigits (value.symm ▸ fits)
      rw [taken, value, Nat.zero_add, if_pos rfl]
      exact short _ behind fits

theorem reads_float (spelled : SpellsTail cs rest)
    (unread : cursor.rest = Nat.toDigits 10 n ++ cs) :
    Reads rest IsFloat (readNumber positive cursor) := by
  have stops : cs.takeWhile Char.isDigit = [] := by
    cases spelled with
    | fraction | both => rfl
    | exponent exponent => exact exponent.takeWhile_eq
  exact reads_readNumber unread stops (fun _ unread _ => (reads_tail spelled unread).1)
    fun _ _ _ unread _ => (reads_tail spelled unread).2 _

theorem readTail_ended (ended : EndsNumber cursor.rest) : readTail positive n cursor
    = if positive then .ok (.int n, cursor)
      else if n = 0 || minInt.natAbs < n then .ok (.float (-(UInt64.ofNat n).toFloat), cursor)
      else .ok (.int (-n), cursor) := by
  unfold readTail
  split
  · rename_i point
    exact absurd (ended '.' (by rw [point]; rfl)) (by decide)
  · rename_i letter
    exact absurd (ended 'e' (by rw [letter]; rfl)) (by decide)
  · rename_i letter
    exact absurd (ended 'E' (by rw [letter]; rfl)) (by decide)
  · rfl

theorem reads_readLongTail_ended (ended : EndsNumber rest) (unread : cursor.rest = rest)
    (significand dropped : Nat) :
    Reads rest IsFloat (readLongTail positive significand dropped cursor) := by
  unfold readLongTail
  split
  · rename_i point
    exact absurd (ended '.' (by rw [← unread, point]; rfl)) (by decide)
  · exact reads_readScale_ended ended unread

theorem reads_whole (ended : EndsNumber rest) (unread : cursor.rest = Nat.toDigits 10 n ++ rest) :
    Reads rest (StoredAs n) (readNumber true cursor) := by
  have bounds (fits : n ≤ maxWord) : minInt ≤ (n : Int) ∧ (n : Int) ≤ maxInt := by
    unfold minInt maxInt
    unfold maxWord at fits
    omega
  refine reads_readNumber unread ended.takeWhile_eq (fun cursor unread fits => ?_)
    fun cursor significand dropped unread exceeds => ?_
  · rw [readTail_ended (unread ▸ ended), if_pos rfl]
    exact .ok unread (by rw [StoredAs, if_pos (bounds fits)])
  · have noBounds : ¬ (minInt ≤ (n : Int) ∧ (n : Int) ≤ maxInt) := by
      unfold minInt maxInt
      unfold maxWord at exceeds
      omega
    intro v cursor' read
    rw [StoredAs, if_neg noBounds]
    exact reads_readLongTail_ended ended unread significand dropped v cursor' read

theorem reads_negative (nonzero : 0 < n) (ended : EndsNumber rest)
    (unread : cursor.rest = Nat.toDigits 10 n ++ rest) :
    Reads rest (StoredAs (-n)) (readNumber false cursor) := by
  have least : minInt.natAbs = 0x8000000000000000 := rfl
  have bounds : minInt ≤ -(n : Int) ∧ -(n : Int) ≤ maxInt ↔ n ≤ minInt.natAbs := by
    rw [least, minInt, maxInt]
    omega
  refine reads_readNumber unread ended.takeWhile_eq (fun cursor unread _ => ?_)
    fun cursor significand dropped unread exceeds => ?_
  · rw [readTail_ended (unread ▸ ended), if_neg Bool.false_ne_true]
    by_cases fits : n ≤ minInt.natAbs
    · have kept : ¬ (n = 0 || minInt.natAbs < n) = true := by simp; omega
      rw [if_neg kept]
      exact .ok unread (by rw [StoredAs, if_pos (bounds.mpr fits)])
    · have lost : (n = 0 || minInt.natAbs < n) = true := by simp; omega
      rw [if_pos lost]
      exact .ok unread (by rw [StoredAs, if_neg (fun h => fits (bounds.mp h))]; exact ⟨_, rfl⟩)
  · have lost : ¬ n ≤ minInt.natAbs := by
      rw [least]
      unfold maxWord at exceeds
      omega
    intro v cursor' read
    rw [StoredAs, if_neg (fun h => lost (bounds.mp h))]
    exact reads_readLongTail_ended ended unread significand dropped v cursor' read

theorem reads_minusZero (ended : EndsNumber rest) (unread : cursor.rest = '0' :: rest) :
    Reads rest IsFloat (readNumber false cursor) := by
  refine reads_readNumber (n := 0) unread ended.takeWhile_eq (fun cursor unread _ => ?_)
    fun _ _ _ _ exceeds => absurd exceeds (by decide)
  rw [readTail_ended (unread ▸ ended)]
  exact .ok unread ⟨_, rfl⟩

end Whole

end ClientGen.Json
