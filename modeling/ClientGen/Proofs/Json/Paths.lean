import ClientGen.Proofs.Json.Documents

/-! # Paths in texts

A path into a value is written from the root `$`, with a dot and a name for each field and an index
in brackets for each item. A path whose names have neither a dot nor a bracket is read back from
what is written.
-/

namespace ClientGen.Json

def Step.text : Step → String
  | .field name => "." ++ name
  | .item index => "[" ++ toString index ++ "]"

/-- The text of a path that goes on from a place with a text of its own. -/
def textFrom (base : String) : List Step → String
  | [] => base
  | step :: path => textFrom (base ++ step.text) path

/-- Whether a character can be part of the name of a field. -/
def isNameChar (c : Char) : Bool :=
  c != '.' && c != '['

/-- Read the steps that follow the root. A name and an index are not empty. -/
def readSteps (cs : List Char) : Option (List Step) :=
  match cs with
  | [] => some []
  | '.' :: rest =>
      let name := rest.takeWhile isNameChar
      if name.isEmpty then none
      else (readSteps (rest.dropWhile isNameChar)).map (.field (String.ofList name) :: ·)
  | '[' :: rest =>
      let digits := rest.takeWhile Char.isDigit
      let behind := rest.dropWhile Char.isDigit
      if digits.isEmpty || behind.head? != some ']' then none
      else (readSteps behind.tail).map (.item (Nat.ofDigitChars 10 digits 0) :: ·)
  | _ => none
termination_by cs.length
decreasing_by
  · exact Nat.lt_succ_of_le (List.dropWhile_sublist _).length_le
  · exact Nat.lt_succ_of_le ((List.tail_sublist _).trans (List.dropWhile_sublist _)).length_le

def readPath (text : String) : Option (List Step) :=
  match text.toList with
  | '$' :: rest => readSteps rest
  | _ => none

/-- Whether a step can be told from what is written behind it. -/
def Step.isPlain : Step → Bool
  | .field name => !name.isEmpty && name.toList.all isNameChar
  | .item _ => true

variable {base name : String} {step : Step} {path : List Step} {index : Nat} {cs : List Char}

theorem toList_textFrom :
    (textFrom base path).toList = base.toList ++ path.flatMap (·.text.toList) := by
  induction path generalizing base with
  | nil => simp [textFrom]
  | cons step path ih => simp [textFrom, ih]

/-- Each step starts with a mark that is part of no name. -/
theorem takeWhile_steps : (path.flatMap (·.text.toList)).takeWhile isNameChar = [] := by
  cases path with
  | nil => rfl
  | cons step path =>
      cases step with
      | field name => simp [Step.text, isNameChar]
      | item index => simp [Step.text, isNameChar]

theorem readSteps_field (plain : (Step.field name).isPlain = true) :
    readSteps ('.' :: (name.toList ++ path.flatMap (·.text.toList)))
      = (readSteps (path.flatMap (·.text.toList))).map (.field name :: ·) := by
  simp only [Step.isPlain, Bool.and_eq_true, Bool.not_eq_true', List.all_eq_true] at plain
  obtain ⟨nonempty, plain⟩ := plain
  have run : (name.toList ++ path.flatMap (·.text.toList)).takeWhile isNameChar = name.toList := by
    rw [List.takeWhile_append_of_pos plain, takeWhile_steps, List.append_nil]
  have behind : (name.toList ++ path.flatMap (·.text.toList)).dropWhile isNameChar
      = path.flatMap (·.text.toList) := by
    have whole := List.takeWhile_append_dropWhile (p := isNameChar)
      (l := name.toList ++ path.flatMap (·.text.toList))
    rwa [run, List.append_cancel_left_eq] at whole
  have named : name.toList.isEmpty = false := by simpa using nonempty
  rw [readSteps]
  simp only [run, behind, named, Bool.false_eq_true, if_false, String.ofList_toList]

theorem readSteps_item :
    readSteps ('[' :: (Nat.toDigits 10 index ++ ']' :: cs))
      = (readSteps cs).map (.item index :: ·) := by
  have digits : ∀ c ∈ Nat.toDigits 10 index, c.isDigit = true := fun c mem =>
    Nat.isDigit_of_mem_toDigits (by decide) (Nat.le_refl 10) mem
  have run : (Nat.toDigits 10 index ++ ']' :: cs).takeWhile Char.isDigit
      = Nat.toDigits 10 index := by
    rw [List.takeWhile_append_of_pos digits, List.takeWhile_cons_of_neg (by decide),
      List.append_nil]
  have behind : (Nat.toDigits 10 index ++ ']' :: cs).dropWhile Char.isDigit = ']' :: cs := by
    rw [List.dropWhile_append_of_pos digits, List.dropWhile_cons_of_neg (by decide)]
  have nonempty : (Nat.toDigits 10 index).isEmpty = false := by simp
  rw [readSteps]
  simp [run, behind, nonempty]

theorem readSteps_steps (plain : ∀ step ∈ path, step.isPlain = true) :
    readSteps (path.flatMap (·.text.toList)) = some path := by
  induction path with
  | nil => simp [readSteps]
  | cons step path ih =>
      obtain ⟨first, others⟩ := List.forall_mem_cons.mp plain
      cases step with
      | field name =>
          have text : (Step.field name).text.toList = '.' :: name.toList := by
            simp [Step.text]
          rw [List.flatMap_cons, text, List.cons_append, readSteps_field first, ih others]
          rfl
      | item index =>
          have text : (Step.item index).text.toList = '[' :: (Nat.toDigits 10 index ++ [']']) := by
            simp [Step.text]
          rw [List.flatMap_cons, text, List.cons_append, List.append_assoc, List.singleton_append,
            readSteps_item, ih others]
          rfl

theorem readPath_textFrom (plain : ∀ step ∈ path, step.isPlain = true) :
    readPath (textFrom "$" path) = some path := by
  have root : (textFrom "$" path).toList = '$' :: path.flatMap (·.text.toList) := toList_textFrom
  rw [readPath, root]
  exact readSteps_steps plain

end ClientGen.Json
