import ClientGen.Proofs.Naming.Conventions

/-! # Snake case beyond ASCII

Snake case puts an underscore before each of the letters `A` to `Z` behind the first character, and
then makes all of the text small, in any script. There are capitals beyond ASCII, and no underscore
is put before them: the text is shorter by one character for each of them than it would be if it were
separated at all of its capitals.
-/

namespace ClientGen.Text

variable {c : Char} {before cs : List Char}

/-- Characters that have a lower-case form but are digraphs in title case, not capitals. -/
def titleCaseRanges : List (Nat × Nat) := [
  (453, 453), (456, 456), (459, 459), (498, 498), (8072, 8079), (8088, 8095), (8104, 8111),
  (8124, 8124), (8140, 8140), (8188, 8188)]

/-- Capitals without a lower-case form, most of them mathematical letters. -/
def loneCapitalRanges : List (Nat × Nat) := [
  (978, 980), (8450, 8450), (8455, 8455), (8459, 8461), (8464, 8466), (8469, 8469), (8473, 8477),
  (8484, 8484), (8488, 8488), (8492, 8493), (8496, 8497), (8499, 8499), (8510, 8511), (8517, 8517),
  (119808, 119833), (119860, 119885), (119912, 119937), (119964, 119964), (119966, 119967),
  (119970, 119970), (119973, 119974), (119977, 119980), (119982, 119989), (120016, 120041),
  (120068, 120069), (120071, 120074), (120077, 120084), (120086, 120092), (120120, 120121),
  (120123, 120126), (120128, 120132), (120134, 120134), (120138, 120144), (120172, 120197),
  (120224, 120249), (120276, 120301), (120328, 120353), (120380, 120405), (120432, 120457),
  (120488, 120512), (120546, 120570), (120604, 120628), (120662, 120686), (120720, 120744),
  (120778, 120778), (127280, 127305), (127312, 127337), (127344, 127369)]

/-- Whether a character is a capital in its script: the Unicode property `Uppercase`. -/
def isUppercase (c : Char) : Bool :=
  (lowerChar c != [c] && !inRanges titleCaseRanges c.toNat) || inRanges loneCapitalRanges c.toNat

theorem isUppercase_of_isUpper (h : c.isUpper = true) : isUppercase c = true :=
  Naming.ascii_forall (P := fun c => c.isUpper = true → isUppercase c = true) (by decide +kernel)
    (Naming.ascii_of_isUpper h) h

/-- The form of a sigma depends on the characters around it, but its length does not. -/
theorem length_lowercaseAfter :
    (lowercaseAfter before cs).length = (cs.flatMap lowerChar).length := by
  induction cs generalizing before with
  | nil => rfl
  | cons c cs ih =>
      rw [lowercaseAfter, List.length_append, ih, List.flatMap_cons, List.length_append]
      by_cases sigma : c = 'Σ'
      · have single : (lowerChar 'Σ').length = 1 := by decide
        rw [sigma, if_pos rfl, single, List.length_singleton]
      · rw [if_neg sigma]

theorem length_lowercase {s : String} :
    (lowercase s).length = (s.toList.flatMap lowerChar).length := by
  rw [lowercase, String.length_ofList, length_lowercaseAfter]

end ClientGen.Text

namespace ClientGen.Naming

variable {capital : Char → Bool} {c : Char} {cs : List Char} {s : String}

/-- An underscore before each capital behind the first character, and nothing else. -/
def markInner (capital : Char → Bool) : List Char → List Char
  | [] => []
  | c :: cs => c :: cs.flatMap fun d => if capital d then ['_', d] else [d]

/-- A text in lower case, separated at its capitals. -/
def separated (capital : Char → Bool) (s : String) : String :=
  Text.lowercase (String.ofList (markInner capital s.toList))

theorem snakeCase_eq_separated (s : String) : snakeCase s = separated Char.isUpper s := by
  rw [snakeCase, separated]
  cases s.toList with
  | nil => rfl
  | cons c cs => rfl

theorem length_flatMap_mark :
    ((cs.flatMap fun d => if capital d then ['_', d] else [d]).flatMap Text.lowerChar).length
      = cs.countP capital + (cs.flatMap Text.lowerChar).length := by
  induction cs with
  | nil => rfl
  | cons d cs ih =>
      rw [List.flatMap_cons, List.flatMap_append, List.length_append, ih, List.flatMap_cons,
        List.length_append]
      cases marked : capital d with
      | true =>
          have underscore : Text.lowerChar '_' = ['_'] := Text.lowerChar_ascii (by decide)
          rw [List.countP_cons_of_pos marked, if_pos rfl, List.flatMap_cons, List.flatMap_singleton,
            underscore, List.length_append, List.length_singleton]
          omega
      | false =>
          rw [List.countP_cons_of_neg (by simp [marked]), if_neg Bool.false_ne_true,
            List.flatMap_singleton]
          omega

/-- A separated text is longer than the text in lower case by one character for each of the capitals
    that it is separated at. -/
theorem length_separated :
    (separated capital s).length = s.toList.tail.countP capital + (Text.lowercase s).length := by
  rw [separated, Text.length_lowercase, Text.length_lowercase, String.toList_ofList]
  cases s.toList with
  | nil => rfl
  | cons c cs =>
      rw [markInner, List.flatMap_cons, List.length_append, length_flatMap_mark, List.tail_cons,
        List.flatMap_cons, List.length_append]
      omega

theorem separated_congr {other : Char → Bool} (same : ∀ c ∈ s.toList.tail, capital c = other c) :
    separated capital s = separated other s := by
  rw [separated, separated]
  cases chars : s.toList with
  | nil => rfl
  | cons c cs =>
      rw [chars] at same
      rw [markInner, markInner, List.flatMap_def, List.flatMap_def,
        List.map_congr_left fun d mem => by rw [same d mem]]

/-- The capitals behind the first character of a text that are not in ASCII. -/
def otherCapitals (s : String) : List Char :=
  s.toList.tail.filter fun c => Text.isUppercase c && !c.isUpper

theorem countP_isUppercase :
    cs.countP Text.isUppercase
      = (cs.filter fun c => Text.isUppercase c && !c.isUpper).length + cs.countP Char.isUpper := by
  induction cs with
  | nil => rfl
  | cons c cs ih =>
      rw [List.countP_cons, List.countP_cons, List.filter_cons, ih]
      cases upper : c.isUpper with
      | true => simp [Text.isUppercase_of_isUpper upper, Nat.add_assoc]
      | false => cases Text.isUppercase c <;> simp [Nat.add_right_comm]

/-- Snake case separates a text at the letters `A` to `Z` behind its first character. The text that is
    separated at all capitals is longer by one character for each capital beyond ASCII, so snake case
    is this text if and only if there are no such capitals behind the first character. -/
theorem snakeCase_separates_iff (s : String) :
    snakeCase s = separated Char.isUpper s ∧
      (separated Text.isUppercase s).length = (snakeCase s).length + (otherCapitals s).length ∧
      (snakeCase s = separated Text.isUppercase s ↔ otherCapitals s = []) := by
  have lengths : (separated Text.isUppercase s).length
      = (snakeCase s).length + (otherCapitals s).length := by
    rw [snakeCase_eq_separated, length_separated, length_separated, countP_isUppercase,
      otherCapitals]
    omega
  refine ⟨snakeCase_eq_separated s, lengths, fun same => ?_, fun none => ?_⟩
  · rw [← same] at lengths
    exact List.eq_nil_of_length_eq_zero (by omega)
  · rw [snakeCase_eq_separated]
    refine separated_congr fun c mem => ?_
    cases upper : c.isUpper with
    | true => exact (Text.isUppercase_of_isUpper upper).symm
    | false =>
        have plain := List.filter_eq_nil_iff.mp none c mem
        rw [upper, Bool.not_false, Bool.and_true] at plain
        exact (Bool.eq_false_iff.mpr plain).symm

/-- A capital with an accent, which no underscore is put before. -/
theorem snakeCase_separates_accented :
    snakeCase "fooÉtat" = "fooétat" ∧ separated Text.isUppercase "fooÉtat" = "foo_état" ∧
      snakeCase "fooÉtat" ≠ separated Text.isUppercase "fooÉtat" := by
  decide +kernel

end ClientGen.Naming
