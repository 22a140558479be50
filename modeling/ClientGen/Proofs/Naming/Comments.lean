import ClientGen.Naming
import ClientGen.Proofs.Text.Lines
import ClientGen.Proofs.Text.Trimming

/-! # Comments

A text becomes a comment line by line. Each line stands behind the marker and a blank, without the
blanks at its end, and a blank line is the marker alone. So the lines of the text can be read off
the comment, and they make the same comment again.
-/

namespace ClientGen.Text

variable {cs : List Char} {s : String}

theorem dropEndWhile_dropReturn (cs : List Char) :
    dropEndWhile isBlank (dropReturn cs) = dropEndWhile isBlank cs := by
  rw [dropReturn]
  split
  · rename_i last
    obtain ⟨front, rfl⟩ := List.getLast?_eq_some_iff.mp last
    have blank : isBlank '\r' = true := by decide
    rw [List.dropLast_concat, dropEndWhile_append_of_forall (List.forall_mem_singleton.mpr blank)]
  · rfl

theorem exists_feedPieces_trimEnd (visible : ∃ c ∈ s.toList, isBlank c = false) :
    ∃ pieces piece c, feedPieces (trimEnd s) = pieces ++ [piece] ∧ piece.getLast? = some c ∧
      isBlank c = false := by
  have nonempty : trimEnd s ≠ "" := by
    intro empty
    obtain ⟨c, mem, shown⟩ := visible
    rw [trimEnd_eq_empty_iff.mp empty c mem] at shown
    cases shown
  cases last : (trimEnd s).toList.getLast? with
  | none => exact absurd (by simpa using last) nonempty
  | some c =>
      have trimmed := last
      rw [trimEnd, String.toList_ofList] at trimmed
      have shown := not_of_getLast?_dropEndWhile trimmed
      have inner : (c = '\n') = False := eq_false (by rintro rfl; cases shown)
      obtain ⟨pieces, piece, found, ending⟩ :=
        exists_splitChars_eq_concat (p := (· = '\n')) last (by simp [inner])
      exact ⟨pieces, piece, c, found, ending, shown⟩

end ClientGen.Text

namespace ClientGen.Naming

open Text

variable {marker text : String}

/-- A line as it stands in a comment. -/
def commented (marker line : String) : String :=
  if line.toList.all isBlank then marker else marker ++ " " ++ trimEnd line

/-- What the lines of a comment say: what is behind the marker and the blank. -/
def uncommented (marker comment : String) : List String :=
  (feedLines comment).map fun line => String.ofList (line.toList.drop (marker.length + 1))

theorem commented_eq (marker line : String) :
    commented marker line
      = let line := trimEnd line
        if line.isEmpty then marker else marker ++ " " ++ line := by
  have blank : line.toList.all isBlank = (trimEnd line).isEmpty := by
    rw [Bool.eq_iff_iff, List.all_eq_true, String.isEmpty_iff, trimEnd_eq_empty_iff]
  rw [commented, blank]

theorem commented_trimEnd (marker line : String) :
    commented marker (trimEnd line) = commented marker line := by
  rw [commented_eq, commented_eq, trimEnd_trimEnd]

theorem docComment_of_blank (blank : ∀ c ∈ text.toList, isBlank c = true) (marker : String) :
    docComment text marker = "" := by
  rw [docComment, trimEnd_eq_empty_iff.mpr blank]
  rfl

/-- The lines of a trimmed text are those that line feeds separate, up to blanks at their ends. -/
theorem map_commented_lines (visible : ∃ c ∈ text.toList, isBlank c = false) (marker : String) :
    (lines (trimEnd text)).map (commented marker)
      = (feedLines (trimEnd text)).map (commented marker) := by
  obtain ⟨pieces, piece, c, found, ending, -⟩ := exists_feedPieces_trimEnd visible
  have nonempty : piece ≠ [] := by
    rintro rfl
    cases ending
  have kept : endedLines [piece] = [piece] := if_neg (by simpa using nonempty)
  have returned (cs : List Char) :
      commented marker (String.ofList (dropReturn cs)) = commented marker (String.ofList cs) := by
    rw [commented_eq, commented_eq, trimEnd, trimEnd, String.toList_ofList, String.toList_ofList,
      dropEndWhile_dropReturn]
  rw [lines, ← feedPieces, feedLines, split, ← feedPieces, found, endedLines_concat, kept]
  simp [returned]

theorem docComment_eq (visible : ∃ c ∈ text.toList, isBlank c = false) (marker : String) :
    docComment text marker
      = "\n".intercalate ((feedLines (trimEnd text)).map (commented marker)) := by
  rw [← map_commented_lines visible, docComment, show commented marker = _ from
    funext (commented_eq marker)]

theorem feedLines_docComment (single : '\n' ∉ marker.toList)
    (visible : ∃ c ∈ text.toList, isBlank c = false) :
    feedLines (docComment text marker) = (feedLines (trimEnd text)).map (commented marker) := by
  rw [docComment_eq visible, feedLines_intercalate]
  · simpa using feedLines_ne_nil (trimEnd text)
  · intro line mem
    obtain ⟨source, listed, rfl⟩ := List.mem_map.mp mem
    have inner := feed_not_mem_trimEnd (feed_not_mem_of_mem_feedLines listed)
    rw [commented]
    split
    · exact single
    · simpa [single] using inner

theorem uncommented_commented (marker line : String) :
    String.ofList ((commented marker line).toList.drop (marker.length + 1)) = trimEnd line := by
  rw [commented]
  split
  · rename_i blank
    rw [List.all_eq_true] at blank
    rw [trimEnd_eq_empty_iff.mpr blank, List.drop_eq_nil_of_le (by simp [String.length_toList])]
  · have text : (marker ++ " " ++ trimEnd line).toList
        = (marker.toList ++ [' ']) ++ (trimEnd line).toList := by simp
    rw [text, List.drop_left' (by simp [String.length_toList]), String.ofList_toList]

theorem uncommented_docComment (single : '\n' ∉ marker.toList) (text : String) :
    uncommented marker (docComment text marker) = (feedLines (trimEnd text)).map trimEnd := by
  by_cases visible : ∃ c ∈ text.toList, isBlank c = false
  · rw [uncommented, feedLines_docComment single visible, List.map_map]
    exact List.map_congr_left fun line _ => uncommented_commented marker line
  · simp only [not_exists, not_and, Bool.not_eq_false] at visible
    rw [docComment_of_blank visible, trimEnd_eq_empty_iff.mpr visible]
    simp [uncommented, feedLines, split, splitChars, trimEnd, dropEndWhile]

theorem exists_getLast?_intercalate (visible : ∃ c ∈ text.toList, isBlank c = false) :
    ∃ c, ("\n".intercalate ((feedLines (trimEnd text)).map trimEnd)).toList.getLast? = some c ∧
      isBlank c = false := by
  obtain ⟨pieces, piece, c, found, ending, shown⟩ := exists_feedPieces_trimEnd visible
  have kept : trimEnd (String.ofList piece) = String.ofList piece :=
    trimEnd_eq_self (by rw [String.toList_ofList]; exact ending) shown
  have shape : ((feedLines (trimEnd text)).map trimEnd).map String.toList
      = pieces.map (fun piece => (trimEnd (String.ofList piece)).toList) ++ [piece] := by
    rw [feedLines, split, ← feedPieces, found]
    simp [kept]
  rw [String.toList_intercalate, shape]
  obtain ⟨front, joined⟩ := suffix_intercalate "\n".toList piece
    (pieces.map fun piece => (trimEnd (String.ofList piece)).toList)
  refine ⟨c, ?_, shown⟩
  rw [← joined, List.getLast?_append, ending]
  rfl

/-- The trimmed lines of a text make the comment that the text makes. -/
theorem docComment_intercalate (text marker : String) :
    docComment ("\n".intercalate ((feedLines (trimEnd text)).map trimEnd)) marker
      = docComment text marker := by
  by_cases visible : ∃ c ∈ text.toList, isBlank c = false
  · obtain ⟨c, last, shown⟩ := exists_getLast?_intercalate visible
    have seen : ∃ c ∈ ("\n".intercalate ((feedLines (trimEnd text)).map trimEnd)).toList,
        isBlank c = false := ⟨c, List.mem_of_getLast? last, shown⟩
    rw [docComment_eq seen, trimEnd_eq_self last shown, feedLines_intercalate, List.map_map,
      docComment_eq visible]
    · simp only [Function.comp_def, commented_trimEnd]
    · simpa using feedLines_ne_nil (trimEnd text)
    · intro line mem
      obtain ⟨source, listed, rfl⟩ := List.mem_map.mp mem
      exact feed_not_mem_trimEnd (feed_not_mem_of_mem_feedLines listed)
  · simp only [not_exists, not_and, Bool.not_eq_false] at visible
    rw [trimEnd_eq_empty_iff.mpr visible, docComment_of_blank visible]
    exact docComment_of_blank (List.forall_mem_nil _) marker

theorem docComment_eq_empty_iff (single : '\n' ∉ marker.toList) :
    docComment text marker = "" ↔ ∀ c ∈ text.toList, isBlank c = true := by
  refine ⟨fun empty => ?_, fun blank => docComment_of_blank blank marker⟩
  by_contra visible
  simp only [not_forall, Bool.not_eq_true] at visible
  obtain ⟨c, mem, shown⟩ := visible
  -- the lines of an empty comment say nothing, but the text ends in something
  obtain ⟨d, last, -⟩ := exists_getLast?_intercalate ⟨c, mem, shown⟩
  have nothing : uncommented marker "" = [""] := by
    simp [uncommented, feedLines, split, splitChars]
  rw [← uncommented_docComment single, empty, nothing] at last
  cases last

/-- A text of blanks makes no comment. The lines of any other comment are those of the trimmed text,
    each behind the marker. So without the markers they are the lines of the text without the blanks
    at their ends, and from these the same comment is made. -/
theorem docComment_lines {marker : String} (single : '\n' ∉ marker.toList) (text : String) :
    (docComment text marker = "" ↔ ∀ c ∈ text.toList, isBlank c = true) ∧
    ((∃ c ∈ text.toList, isBlank c = false) →
      feedLines (docComment text marker) = (feedLines (trimEnd text)).map (commented marker)) ∧
    uncommented marker (docComment text marker) = (feedLines (trimEnd text)).map trimEnd ∧
    docComment ("\n".intercalate (uncommented marker (docComment text marker))) marker
      = docComment text marker := by
  refine ⟨docComment_eq_empty_iff single, feedLines_docComment single,
    uncommented_docComment single text, ?_⟩
  rw [uncommented_docComment single]
  exact docComment_intercalate text marker

/-- Lines that end in a carriage return, a tab or an ideographic blank, with a blank one between. -/
theorem docComment_lines_blanks :
    let text := "One.\r\n \t\n  Two\rand\u3000three.\t\nFour.\u3000\n\n"
    '\n' ∉ "//".toList ∧ (∃ c ∈ text.toList, isBlank c = false) ∧
      feedLines (docComment text "//") = (feedLines (trimEnd text)).map (commented "//") ∧
      feedLines (docComment text "//")
        = ["// One.", "//", "//   Two\rand\u3000three.", "// Four."] := by
  intro text
  have single : '\n' ∉ "//".toList := by decide
  have visible : ∃ c ∈ text.toList, isBlank c = false := ⟨'O', by decide, by decide⟩
  obtain ⟨-, lines, -, -⟩ := docComment_lines single text
  exact ⟨single, visible, lines visible, by decide +kernel⟩

end ClientGen.Naming
