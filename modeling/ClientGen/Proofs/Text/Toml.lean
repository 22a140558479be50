import ClientGen.Proofs.Text.SourceLiterals

/-! # Strings in TOML

Basic strings stand between double quotes on one line. A text that is put between the quotes as it
is denotes itself if and only if it holds neither quotes nor backslashes nor control characters
other than tabs.
-/

namespace ClientGen.Text.Toml

/-- Whether a character can stand for itself in a basic string. -/
def isBare (c : Char) : Bool :=
  c != '"' && c != '\\' && c != '\x7f' && (c == '\t' || ' ' ≤ c)

/-- The number of a character, in four or eight digits. -/
def otherEscape? : List Char → Option (List Nat × List Char)
  | 'u' :: rest => coded (fun n => (charOf? n).map ownNumber) (fixedNumber? 4 rest)
  | 'U' :: rest => coded (fun n => (charOf? n).map ownNumber) (fixedNumber? 8 rest)
  | _ => none

theorem otherEscape?_spends {cs rest : List Char} {value : List Nat}
    (h : otherEscape? cs = some (value, rest)) : Spends ownNumber value.length cs rest := by
  have single (n : Nat) (value : List Nat) (unit : (charOf? n).map ownNumber = some value) :
      value.length = 1 := by
    obtain ⟨_, -, rfl⟩ := Option.map_eq_some_iff.mp unit
    rfl
  unfold otherEscape? at h
  split at h
  · refine coded_spends ['u'] ownNumber_ne_nil fixedNumber?_spelledBy (fun n value unit => ?_) h
    rw [single n value unit]
    decide
  · refine coded_spends ['U'] ownNumber_ne_nil fixedNumber?_spelledBy (fun n value unit => ?_) h
    rw [single n value unit]
    decide
  · cases h

/-- Strings between double quotes, on one line. -/
def basicString : LiteralRules where
  quote := '"'
  units := ownNumber
  isPlain c _ := isBare c
  escape :=
    backslash [('b', 8), ('t', 9), ('n', 10), ('f', 12), ('r', 13), ('"', 34), ('\\', 92)]
      otherEscape?
  units_ne_nil := ownNumber_ne_nil
  spends := backslash_spends ownNumber_ne_nil otherEscape?_spends

theorem allPlain_iff (cs : List Char) :
    basicString.allPlain cs = true ↔ ∀ c ∈ cs, isBare c = true := by
  induction cs with
  | nil => exact iff_of_true rfl (List.forall_mem_nil _)
  | cons c cs ih =>
      have quote : isBare c = true → (c != '"') = true := by
        intro bare
        simp only [isBare, Bool.and_eq_true] at bare
        exact bare.1.1.1
      have step : basicString.allPlain (c :: cs)
          = (c != '"' && isBare c && basicString.allPlain cs) := rfl
      rw [step, List.forall_mem_cons, ← ih, Bool.and_eq_true, Bool.and_eq_true,
        and_iff_right_of_imp quote]

end ClientGen.Text.Toml
