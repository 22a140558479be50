import ClientGen.Text.Lines
import Mathlib.Data.List.Basic

/-! # Pieces and lines

Splitting undoes putting together. The pieces of a text go on from those in front of a separator to
those behind it, and a text that was made of lines has these lines, unless there is a line end
inside one of them.
-/

namespace ClientGen.Text

variable {p : Char → Bool} {c : Char} {cs piece : List Char} {pieces : List (List Char)}
  {texts : List String}

theorem splitChars_of_not_mem (h : ∀ c ∈ cs, p c = false) : splitChars p cs = [cs] := by
  induction cs with
  | nil => rfl
  | cons c rest ih =>
      obtain ⟨first, others⟩ := List.forall_mem_cons.mp h
      simp [splitChars, first, ih others]

theorem splitChars_ne_nil (p : Char → Bool) (cs : List Char) : splitChars p cs ≠ [] := by
  cases cs with
  | nil => exact List.cons_ne_nil _ _
  | cons c rest =>
      rw [splitChars]
      split
      · exact List.cons_ne_nil _ _
      · split <;> exact List.cons_ne_nil _ _

/-- A separator ends the pieces before it. -/
theorem splitChars_append (separates : p c = true) (before after : List Char) :
    splitChars p (before ++ c :: after) = splitChars p before ++ splitChars p after := by
  induction before with
  | nil => simp [splitChars, separates]
  | cons d rest ih =>
      rw [List.cons_append, splitChars, splitChars, ih]
      by_cases ends : p d = true
      · simp [ends]
      · obtain ⟨piece, pieces, found⟩ := List.exists_cons_of_ne_nil (splitChars_ne_nil p rest)
        simp [ends, found]

theorem length_splitChars_eq_one_iff :
    (splitChars p cs).length = 1 ↔ ∀ c ∈ cs, p c = false := by
  induction cs with
  | nil => simp [splitChars]
  | cons c rest ih =>
      have more := List.length_pos_iff.mpr (splitChars_ne_nil p rest)
      rw [splitChars, List.forall_mem_cons, ← ih]
      obtain ⟨piece, pieces, found⟩ := List.exists_cons_of_ne_nil (splitChars_ne_nil p rest)
      cases p c <;> simp [found]

theorem not_of_mem_splitChars (mem : piece ∈ splitChars p cs) (inside : c ∈ piece) :
    p c = false := by
  induction cs generalizing piece with
  | nil =>
      rw [List.mem_singleton.mp mem] at inside
      cases inside
  | cons d rest ih =>
      rw [splitChars] at mem
      cases separates : p d with
      | true =>
          rw [separates, if_pos rfl, List.mem_cons] at mem
          obtain rfl | mem := mem
          · cases inside
          · exact ih mem inside
      | false =>
          obtain ⟨first, others, found⟩ := List.exists_cons_of_ne_nil (splitChars_ne_nil p rest)
          simp only [separates, found, Bool.false_eq_true, if_false, List.mem_cons] at mem ih
          obtain rfl | mem := mem
          · obtain rfl | inside := List.mem_cons.mp inside
            · exact separates
            · exact ih (.inl rfl) inside
          · exact ih (.inr mem) inside

theorem splitChars_intercalate (separates : p c = true) (nonempty : pieces ≠ [])
    (inside : ∀ piece ∈ pieces, ∀ d ∈ piece, p d = false) :
    splitChars p ([c].intercalate pieces) = pieces := by
  induction pieces with
  | nil => contradiction
  | cons piece rest ih =>
      obtain ⟨first, others⟩ := List.forall_mem_cons.mp inside
      cases rest with
      | nil => rw [List.intercalate_singleton, splitChars_of_not_mem first]
      | cons next rest =>
          rw [List.intercalate_cons_cons, List.append_assoc, List.singleton_append,
            splitChars_append separates, splitChars_of_not_mem first,
            ih (List.cons_ne_nil _ _) others, List.singleton_append]

/-- The last piece of a text ends as the text does, unless a separator is last. -/
theorem exists_splitChars_eq_concat (last : cs.getLast? = some c) (inside : p c = false) :
    ∃ pieces piece, splitChars p cs = pieces ++ [piece] ∧ piece.getLast? = some c := by
  induction cs with
  | nil => cases last
  | cons d rest ih =>
      cases rest with
      | nil =>
          obtain rfl : d = c := by simpa using last
          exact ⟨[], [d], by simp [splitChars, inside], rfl⟩
      | cons e rest =>
          rw [List.getLast?_cons_cons] at last
          obtain ⟨pieces, piece, found, same⟩ := ih last
          rw [splitChars, found]
          cases separates : p d with
          | true => exact ⟨[] :: pieces, piece, rfl, same⟩
          | false =>
              cases pieces with
              | nil => exact ⟨[], d :: piece, rfl, by rw [List.getLast?_cons, same]; rfl⟩
              | cons first pieces => exact ⟨(d :: first) :: pieces, piece, rfl, same⟩

theorem suffix_intercalate (separator piece : List Char) (pieces : List (List Char)) :
    piece <:+ separator.intercalate (pieces ++ [piece]) := by
  induction pieces with
  | nil => simp
  | cons first rest ih =>
      obtain ⟨next, more, found⟩ := List.exists_cons_of_ne_nil
        (List.append_ne_nil_of_right_ne_nil rest (List.cons_ne_nil piece []))
      rw [found] at ih
      rw [List.cons_append, found, List.intercalate_cons_cons]
      exact ih.trans (List.suffix_append _ _)

/-- Whether a text is a single line: there is no line feed in it, and no carriage return that would
    go with the line feed behind it. -/
structure IsLine (text : String) : Prop where
  feed : '\n' ∉ text.toList
  carriage : text.toList.getLast? ≠ some '\r'

/-- A text without line feeds is a line if something stands behind it that ends a line. -/
theorem IsLine.around {front inner back : String} (free : '\n' ∉ front.toList)
    (free' : '\n' ∉ inner.toList) (ending : IsLine back) (nonempty : back ≠ "") :
    IsLine (front ++ inner ++ back) where
  feed := by simp [free, free', ending.feed]
  carriage := by
    rw [String.toList_append, List.getLast?_append_of_ne_nil _ (by simpa using nonempty)]
    exact ending.carriage

instance (text : String) : Decidable (IsLine text) :=
  decidable_of_iff ('\n' ∉ text.toList ∧ text.toList.getLast? ≠ some '\r')
    ⟨fun ⟨feed, carriage⟩ => ⟨feed, carriage⟩, fun h => ⟨h.feed, h.carriage⟩⟩

/-- The pieces of a text between line feeds. -/
def feedPieces (text : String) : List (List Char) :=
  splitChars (· = '\n') text.toList

theorem length_feedPieces_eq_one_iff {text : String} :
    (feedPieces text).length = 1 ↔ '\n' ∉ text.toList := by
  rw [feedPieces, length_splitChars_eq_one_iff]
  simp [List.forall_mem_ne']

theorem IsLine.feedPieces_eq {text : String} (h : IsLine text) :
    feedPieces text = [text.toList] := by
  refine splitChars_of_not_mem fun c mem => ?_
  rw [decide_eq_false_iff_not]
  rintro rfl
  exact h.feed mem

/-- The lines of a text as line feeds separate them, whatever stands before these. -/
def feedLines (text : String) : List String :=
  split (· = '\n') text

theorem feedLines_ne_nil (text : String) : feedLines text ≠ [] := by
  simpa [feedLines, split] using splitChars_ne_nil _ _

theorem feed_not_mem_of_mem_feedLines {text line : String} (mem : line ∈ feedLines text) :
    '\n' ∉ line.toList := by
  obtain ⟨piece, listed, rfl⟩ := List.mem_map.mp mem
  rw [String.toList_ofList]
  exact fun inside => absurd (not_of_mem_splitChars listed inside) (by decide)

theorem feedLines_intercalate {texts : List String} (nonempty : texts ≠ [])
    (single : ∀ text ∈ texts, '\n' ∉ text.toList) : feedLines ("\n".intercalate texts) = texts := by
  have feed : "\n".toList = ['\n'] := rfl
  rw [feedLines, split, String.toList_intercalate, feed,
    splitChars_intercalate (decide_eq_true rfl)]
  · simp
  · simpa using nonempty
  · intro piece mem d inside
    obtain ⟨text, listed, rfl⟩ := List.mem_map.mp mem
    rw [decide_eq_false_iff_not]
    rintro rfl
    exact single text listed inside

theorem IsLine.dropReturn_eq {text : String} (h : IsLine text) :
    dropReturn text.toList = text.toList :=
  if_neg h.carriage

theorem ofLines_nil : ofLines [] = "" := rfl

theorem ofLines_cons (text : String) (rest : List String) :
    ofLines (text :: rest) = text ++ "\n" ++ ofLines rest :=
  String.join_cons

theorem ofLines_append (above below : List String) :
    ofLines (above ++ below) = ofLines above ++ ofLines below := by
  rw [ofLines, List.map_append, String.join_append]
  rfl

theorem feedPieces_ofLines (texts : List String) :
    feedPieces (ofLines texts) = texts.flatMap feedPieces ++ [[]] := by
  induction texts with
  | nil => rfl
  | cons text rest ih =>
      have chars : (ofLines (text :: rest)).toList
          = text.toList ++ '\n' :: (ofLines rest).toList := by
        simp [ofLines_cons]
      rw [feedPieces, chars, splitChars_append (decide_eq_true rfl), List.flatMap_cons,
        List.append_assoc, ← ih]
      rfl

theorem endedLines_concat (pieces : List (List Char)) (piece : List Char) :
    endedLines (pieces ++ [piece]) = pieces.map dropReturn ++ endedLines [piece] := by
  induction pieces with
  | nil => rfl
  | cons first rest ih =>
      obtain ⟨next, more, found⟩ := List.exists_cons_of_ne_nil
        (List.append_ne_nil_of_right_ne_nil rest (List.cons_ne_nil piece []))
      rw [List.cons_append, List.map_cons, List.cons_append, ← ih, found, endedLines]
      exact List.cons_ne_nil _ _

theorem endedLines_ended (pieces : List (List Char)) :
    endedLines (pieces ++ [[]]) = pieces.map dropReturn :=
  (endedLines_concat pieces []).trans (List.append_nil _)

/-- The lines of a text that was made of texts are all the lines of these. -/
theorem lines_ofLines_eq (texts : List String) :
    lines (ofLines texts)
      = (texts.flatMap feedPieces).map fun piece => String.ofList (dropReturn piece) := by
  have ended : lines (ofLines texts) = (endedLines (feedPieces (ofLines texts))).map _ := rfl
  rw [ended, feedPieces_ofLines, endedLines_ended, List.map_map]
  rfl

theorem lines_ofLines (single : ∀ text ∈ texts, IsLine text) : lines (ofLines texts) = texts := by
  rw [lines_ofLines_eq]
  induction texts with
  | nil => rfl
  | cons text rest ih =>
      obtain ⟨first, others⟩ := List.forall_mem_cons.mp single
      rw [List.flatMap_cons, first.feedPieces_eq, List.singleton_append, List.map_cons, ih others,
        first.dropReturn_eq, String.ofList_toList]

/-- A text has as many lines as it was made of if and only if there was no line feed in these. -/
theorem length_lines_ofLines_iff :
    (lines (ofLines texts)).length = texts.length ↔ ∀ text ∈ texts, '\n' ∉ text.toList := by
  -- no text has less than one line, so a text with more is not made up for by another
  have least (text : String) : 1 ≤ (feedPieces text).length :=
    List.length_pos_iff.mpr (splitChars_ne_nil _ _)
  have least' (texts : List String) : texts.length ≤ (texts.flatMap feedPieces).length := by
    induction texts with
    | nil => exact Nat.le_refl 0
    | cons text rest ih =>
        have := least text
        rw [List.flatMap_cons, List.length_append, List.length_cons]
        omega
  rw [lines_ofLines_eq, List.length_map]
  induction texts with
  | nil => simp
  | cons text rest ih =>
      have first := least text
      have others := least' rest
      rw [List.flatMap_cons, List.length_append, List.length_cons, List.forall_mem_cons,
        ← length_feedPieces_eq_one_iff]
      constructor
      · intro same
        exact ⟨by omega, ih.mp (by omega)⟩
      · rintro ⟨alone, inner⟩
        have := ih.mpr inner
        omega

end ClientGen.Text
