import ClientGen.Proofs.Json.Strings
import ClientGen.Target.Context
import ClientGen.Template.Environment

/-! # Literals of enumeration values

What a source file says an enumeration value is. A text is read back as it was, whatever its
characters, in each of the notations; a whole number is written in decimal digits, so that no
literal could be meant for either.
-/

namespace ClientGen.Template.Environment

open Text

/-- A whole number in decimal digits, behind a minus sign if it is negative. -/
def decimal (i : Int) : String :=
  String.ofList ((if i < 0 then ['-'] else []) ++ Nat.toDigits 10 i.natAbs)

theorem toString_eq_decimal (i : Int) : toString i = decimal i := by
  cases i with
  | ofNat n =>
      have notNegative : ¬ Int.ofNat n < 0 := Int.not_lt.mpr (Int.natCast_nonneg n)
      rw [decimal, if_neg notNegative]
      exact Nat.repr_eq_ofList_toDigits
  | negSucc n =>
      rw [decimal, if_pos (Int.negSucc_lt_zero n), String.ofList_append]
      exact congrArg ("-" ++ ·) Nat.repr_eq_ofList_toDigits

theorem quote_not_mem_decimal (i : Int) : '"' ∉ (decimal i).toList := by
  rw [decimal, String.toList_ofList, List.mem_append]
  intro mem
  cases mem with
  | inl sign =>
      split at sign
      · exact absurd sign (by decide)
      · cases sign
  | inr digit =>
      have := Nat.isDigit_of_mem_toDigits (by decide) (Nat.le_refl 10) digit
      exact absurd this (by decide)

theorem quote_ne_decimal {quoting : Quoting} {s : String} {i : Int} :
    quoting.quote s ≠ decimal i := by
  intro same
  apply quote_not_mem_decimal i
  rw [← same, Quoting.quote, String.toList_ofList]
  exact .head _

/-- Texts survive the notations of JSON, of Dart and of Rust; whole numbers are written in decimal
    digits; and no text is written as a whole number is. -/
theorem literal_readsBack :
    (∀ s, Json.string? (literal .json (Scalar.text s).toValue) = some (s, "") ∧
      Json.parse (literal .json (Scalar.text s).toValue) = .ok (.str s)) ∧
    (∀ s, Grammar.dart.read? (literal .dart (Scalar.text s).toValue) = some (s, "")) ∧
    (∀ s, Grammar.rust.read? (literal .rust (Scalar.text s).toValue) = some (s, "")) ∧
    ∀ quoting,
      (∀ i, literal quoting (Scalar.integer i).toValue = decimal i) ∧
      (∀ n, literal quoting (Scalar.unsigned n).toValue = decimal n) ∧
      (∀ s i, literal quoting (Scalar.text s).toValue
        ≠ literal quoting (Scalar.integer i).toValue) ∧
      ∀ s n, literal quoting (Scalar.text s).toValue
        ≠ literal quoting (Scalar.unsigned n).toValue := by
  have whole (quoting : Quoting) (i : Int) : literal quoting (.int i) = decimal i :=
    toString_eq_decimal i
  refine ⟨fun s => ⟨Json.string?_quoted s, Json.parse_quoted s⟩,
    fun s => Grammar.dart_undoes.read?_eq, fun s => Grammar.rust_undoes.read?_eq, fun quoting => ?_⟩
  refine ⟨whole quoting, fun n => whole quoting n, fun s i => ?_, fun s n => ?_⟩
  · exact fun same => quote_ne_decimal (same.trans (whole quoting i))
  · exact fun same => quote_ne_decimal (same.trans (whole quoting n))

end ClientGen.Template.Environment
