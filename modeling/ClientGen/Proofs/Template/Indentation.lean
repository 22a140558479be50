import ClientGen.Template.Filters

/-! # Indented lines

What the filter for indentation does to a text, character by character: blanks come before each
character that begins a line, other than the first line, and nothing else changes. An empty line
has no such character, so it stays empty.
-/

namespace ClientGen.Template.Filters

open Text

variable {width : Nat} {fresh : Bool} {c : Char} {cs ds : List Char}

/-- Blanks before every character that begins a line. The first character begins one if the text
    is `fresh`, that is, if it comes right behind a line feed. -/
def hang (width : Nat) (fresh : Bool) : List Char → List Char
  | [] => []
  | c :: rest =>
    (if fresh && c != '\n' then List.replicate width ' ' else [])
      ++ c :: hang width (c == '\n') rest

theorem hang_feed : hang width fresh ('\n' :: cs) = '\n' :: hang width true cs := by
  simp [hang]

theorem hang_visible (visible : c ≠ '\n') (cs : List Char) : hang width fresh (c :: cs)
    = List.replicate (if fresh then width else 0) ' ' ++ c :: hang width false cs := by
  have inner : (c == '\n') = false := by simpa using visible
  cases fresh <;> simp [hang, inner, visible]

theorem hang_ne_nil (nonempty : cs ≠ []) : hang width fresh cs ≠ [] := by
  obtain ⟨c, rest, rfl⟩ := List.exists_cons_of_ne_nil nonempty
  simp [hang]

theorem getLast?_hang : (hang width fresh cs).getLast? = cs.getLast? := by
  induction cs generalizing fresh with
  | nil => rfl
  | cons c rest ih =>
      rw [hang, List.getLast?_append, List.getLast?_cons, ih, List.getLast?_cons]
      rfl

/-- The line as the filter writes it, unless it is the first one. -/
def indentedLine (width : Nat) (line : List Char) : List Char :=
  if line.isEmpty && !false then line else List.replicate width ' ' ++ line

theorem intercalate_append (xs line : List Char) (rest : List (List Char)) :
    ['\n'].intercalate ((xs ++ line) :: rest) = xs ++ ['\n'].intercalate (line :: rest) := by
  cases rest with
  | nil => simp
  | cons => simp [List.intercalate_cons_cons]

/-- Lines that are put together again, the first of them as it was or with blanks. -/
theorem intercalate_splitChars (width : Nat) (cs : List Char) : ∃ line rest,
    splitChars (· = '\n') cs = line :: rest ∧
    ['\n'].intercalate (line :: rest.map (indentedLine width)) = hang width false cs ∧
    ['\n'].intercalate (indentedLine width line :: rest.map (indentedLine width))
      = hang width true cs := by
  induction cs with
  | nil => exact ⟨[], [], rfl, rfl, rfl⟩
  | cons c cs ih =>
      obtain ⟨line, rest, pieces, same, fresh⟩ := ih
      by_cases ends : c = '\n'
      · subst c
        have joined : ['\n'].intercalate ([] :: (line :: rest).map (indentedLine width))
            = '\n' :: hang width true cs := by
          rw [List.map_cons, List.intercalate_cons_cons, fresh]
          rfl
        exact ⟨[], line :: rest, by simp [splitChars, pieces], joined, joined⟩
      · have joined (blanks : List Char) :
            ['\n'].intercalate ((blanks ++ c :: line) :: rest.map (indentedLine width))
              = blanks ++ c :: hang width (c == '\n') cs := by
          have behind : (c == '\n') = false := by simpa using ends
          rw [intercalate_append, behind]
          refine congrArg (blanks ++ ·) ((intercalate_append [c] line _).trans ?_)
          rw [same]
          rfl
        refine ⟨c :: line, rest, by simp [splitChars, pieces, ends], joined [], ?_⟩
        have begins : (true && c != '\n') = true := by simpa using ends
        rw [hang, if_pos begins]
        exact joined _

theorem dropLastLineEnd_eq (noFeed : cs.getLast? ≠ some '\n')
    (noReturn : cs.getLast? ≠ some '\r') : dropLastLineEnd cs = cs := by
  rw [dropLastLineEnd, if_neg noFeed, if_neg noReturn]

/-- A text that ends in no line end is indented line by line. -/
theorem toList_indentLines {s : String} (noFeed : s.toList.getLast? ≠ some '\n')
    (noReturn : s.toList.getLast? ≠ some '\r') :
    (indentLines width false false s).toList = hang width false s.toList := by
  obtain ⟨line, rest, pieces, joined, -⟩ := intercalate_splitChars width s.toList
  have ended : dropLastLineEnd (hang width false s.toList ++ ['\n']) = hang width false s.toList := by
    rw [dropLastLineEnd, if_pos List.getLast?_concat, List.dropLast_concat, getLast?_hang,
      if_neg noReturn]
  rw [indentLines, dropLastLineEnd_eq noFeed noReturn, String.toList_ofList]
  simp only [pieces]
  exact (congrArg (fun cs => dropLastLineEnd (cs ++ ['\n'])) joined).trans ended

end ClientGen.Template.Filters
