import ClientGen.Proofs.Naming.Conventions
import ClientGen.Proofs.Text.LowerCase

/-! # Normal forms of names

What a conversion of names gives, the same conversion leaves as it is. The names that it leaves as
they are can be told by their characters: for snake case each of them is its own lower case, and for
the two camel cases the first one is its own lower or upper case, whatever follows it.
-/

namespace ClientGen.Naming

variable {s : String} {convert : Char → List Char}

/-- Whether each character of a name is its own lower case. -/
def isSnakeCase (s : String) : Bool :=
  s.toList.all fun c => Text.lowerChar c == [c]

theorem isSnakeCase_iff : isSnakeCase s = true ↔ ∀ c ∈ s.toList, Text.lowerChar c = [c] := by
  rw [isSnakeCase, List.all_eq_true]
  simp only [beq_iff_eq]

theorem isSnakeCase_snakeCase (s : String) : isSnakeCase (snakeCase s) = true := by
  rw [isSnakeCase_iff, snakeCase]
  split
  · exact List.forall_mem_nil _
  · exact fun _ => Text.lowerChar_of_mem_lowercase

theorem snakeCase_eq_self (h : isSnakeCase s = true) : snakeCase s = s := by
  have small := isSnakeCase_iff.mp h
  rw [snakeCase]
  split
  · rename_i empty
    exact (String.toList_eq_nil_iff.mp empty).symm
  · rename_i c rest chars
    have inner : ∀ d ∈ rest, d.isUpper = false := fun d mem =>
      isUpper_eq_false_of_lowerChar (small d (chars ▸ List.mem_cons_of_mem c mem))
    rw [markCapitals_eq_self inner, ← chars, String.ofList_toList, Text.lowercase_eq_self small]

theorem snakeCase_eq_self_iff : snakeCase s = s ↔ isSnakeCase s = true :=
  ⟨fun same => same ▸ isSnakeCase_snakeCase s, snakeCase_eq_self⟩

/-- A name with its first character converted, and the rest as it is. -/
def convertFirst (convert : Char → List Char) (s : String) : String :=
  match s.toList with
  | [] => ""
  | c :: rest => String.ofList (convert c ++ rest)

/-- Whether a conversion leaves the first character of a name as it is, if there is one. -/
def startsIn (convert : Char → List Char) (s : String) : Bool :=
  s.toList.head?.all fun c => convert c == [c]

theorem convertFirst_eq_self_iff : convertFirst convert s = s ↔ startsIn convert s = true := by
  rw [convertFirst, startsIn]
  split
  · rename_i empty
    simp [String.toList_eq_nil_iff.mp empty]
  · rename_i c rest chars
    rw [chars, List.head?_cons, Option.all_some, beq_iff_eq, ← String.toList_inj,
      String.toList_ofList, chars, ← List.singleton_append, List.append_left_inj]

/-- The first character of the result is one that the first character of the name becomes, so it is
    left as it is if every such character is and there is always one. -/
theorem startsIn_convertFirst (stays : ∀ c d, d ∈ convert c → convert d = [d])
    (nonempty : ∀ c, convert c ≠ []) (s : String) :
    startsIn convert (convertFirst convert s) = true := by
  rw [convertFirst, startsIn]
  split
  · rfl
  · rename_i c rest chars
    obtain ⟨d, ds, image⟩ := List.exists_cons_of_ne_nil (nonempty c)
    rw [String.toList_ofList, image, List.cons_append, List.head?_cons, Option.all_some, beq_iff_eq]
    exact stays c d (image ▸ List.mem_cons_self)

theorem convertFirst_convertFirst {expansions : List (Nat × List Nat)}
    {ranges : List Text.CaseRange} (h : Text.Settles expansions ranges) (s : String) :
    convertFirst (Text.convertChar expansions ranges)
        (convertFirst (Text.convertChar expansions ranges) s)
      = convertFirst (Text.convertChar expansions ranges) s :=
  convertFirst_eq_self_iff.mpr
    (startsIn_convertFirst (fun _ _ => h.convertChar_of_mem) h.convertChar_ne_nil s)

theorem lowerCamel_lowerCamel (s : String) : lowerCamel (lowerCamel s) = lowerCamel s :=
  convertFirst_convertFirst Text.lowerTable_settles s

theorem upperCamel_upperCamel (s : String) : upperCamel (upperCamel s) = upperCamel s :=
  convertFirst_convertFirst Text.upperTable_settles s

theorem lowerCamel_eq_self (small : s.toList.head?.any Char.isLower = true) :
    lowerCamel s = s := by
  refine convertFirst_eq_self_iff.mpr ?_
  rw [startsIn]
  cases first : s.toList.head? with
  | none => rfl
  | some c =>
      rw [first, Option.any_some] at small
      have ascii := ascii_of_isLower small
      rw [Option.all_some, beq_iff_eq, Text.lowerChar_ascii ascii,
        toLower_eq_self ascii (isUpper_eq_false small)]

/-- Each conversion changes nothing in what it gives, and leaves exactly the names of its own form as
    they are. -/
theorem conversions_settle (s : String) :
    (snakeCase (snakeCase s) = snakeCase s ∧ (snakeCase s = s ↔ isSnakeCase s = true)) ∧
    (lowerCamel (lowerCamel s) = lowerCamel s ∧
      (lowerCamel s = s ↔ startsIn Text.lowerChar s = true)) ∧
    upperCamel (upperCamel s) = upperCamel s ∧
      (upperCamel s = s ↔ startsIn Text.upperChar s = true) := by
  exact ⟨⟨snakeCase_eq_self (isSnakeCase_snakeCase s), snakeCase_eq_self_iff⟩,
    ⟨lowerCamel_lowerCamel s, convertFirst_eq_self_iff⟩,
    upperCamel_upperCamel s, convertFirst_eq_self_iff⟩

/-- One character becomes two, of which the second is left as it is. -/
example : upperCamel "ßeta" = "SSeta" ∧ upperCamel "SSeta" = "SSeta" := by decide

end ClientGen.Naming
