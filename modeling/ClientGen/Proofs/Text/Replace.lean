import ClientGen.Text.Lines

/-! # Replacing parts of a text

A replacement step by step from the left: an occurrence at the front is replaced as a whole, and
any other character is kept. A single character is replaced wherever it stands, so that such a
replacement treats each character by itself.
-/

namespace ClientGen.Text

variable {old new cs rest : List Char} {c : Char} {fuel fuel' : Nat}

theorem replaceChars_nil : replaceChars old new fuel [] = [] := by
  cases fuel <;> rfl

theorem replaceChars_fuel (nonempty : old ≠ []) (enough : cs.length ≤ fuel)
    (enough' : cs.length ≤ fuel') :
    replaceChars old new fuel cs = replaceChars old new fuel' cs := by
  induction fuel generalizing cs fuel' with
  | zero =>
      rw [List.eq_nil_of_length_eq_zero (Nat.le_zero.mp enough), replaceChars_nil,
        replaceChars_nil]
  | succ fuel ih =>
      cases cs with
      | nil => rw [replaceChars_nil, replaceChars_nil]
      | cons c cs =>
          obtain ⟨fuel', rfl⟩ := Nat.exists_eq_succ_of_ne_zero (Nat.ne_zero_of_lt enough')
          simp only [List.length_cons, Nat.succ_le_succ_iff] at enough enough'
          have shorter : ((c :: cs).drop old.length).length ≤ cs.length := by
            have := List.length_pos_iff.mpr nonempty
            rw [List.length_drop, List.length_cons]
            omega
          rw [replaceChars, replaceChars, ih (Nat.le_trans shorter enough)
            (Nat.le_trans shorter enough'), ih enough enough']

/-- Every occurrence of `old` replaced by `new`, from left to right. -/
def replaced (old new cs : List Char) : List Char :=
  replaceChars old new cs.length cs

theorem toList_replace {s t u : String} (nonempty : t ≠ "") :
    (replace s t u).toList = replaced t.toList u.toList s.toList := by
  rw [replace, if_neg (by simpa using nonempty), String.toList_ofList, ← String.length_toList]
  rfl

/-- An occurrence at the front is replaced, and the rest is treated behind it. -/
theorem replaced_append (nonempty : old ≠ []) :
    replaced old new (old ++ rest) = new ++ replaced old new rest := by
  obtain ⟨c, cs, rfl⟩ := List.exists_cons_of_ne_nil nonempty
  have found : (c :: cs).isPrefixOf (c :: (cs ++ rest)) = true :=
    List.isPrefixOf_iff_prefix.mpr (List.prefix_append (c :: cs) rest)
  rw [replaced, List.cons_append, List.length_cons, replaceChars, if_pos found, List.length_cons,
    List.drop_succ_cons, List.drop_left]
  exact congrArg (new ++ ·) (replaceChars_fuel nonempty (by simp) (Nat.le_refl _))

theorem replaced_cons (absent : ¬ old <+: c :: rest) :
    replaced old new (c :: rest) = c :: replaced old new rest := by
  rw [replaced, List.length_cons, replaceChars,
    if_neg fun found => absent (List.isPrefixOf_iff_prefix.mp found)]
  rfl

theorem replaced_singleton :
    replaced [c] new cs = cs.flatMap fun d => if d = c then new else [d] := by
  induction cs with
  | nil => rfl
  | cons d cs ih =>
      rw [List.flatMap_cons, ← ih]
      by_cases same : d = c
      · subst d
        rw [if_pos rfl]
        exact replaced_append (List.cons_ne_nil c [])
      · rw [if_neg same]
        exact replaced_cons fun found => same (List.cons_prefix_cons.mp found).1.symm

end ClientGen.Text
