/-! # Lines and pieces of text

Splitting at a separator, and the lines of a text: a line ends at a line feed, and a
carriage return right before that line feed belongs to the line end.
-/

namespace ClientGen.Text

/-- Pieces between the characters that satisfy `p`; `n` separators give `n + 1` pieces. -/
def splitChars (p : Char → Bool) : List Char → List (List Char)
  | [] => [[]]
  | c :: rest =>
    if p c then [] :: splitChars p rest
    else
      match splitChars p rest with
      | piece :: pieces => (c :: piece) :: pieces
      | [] => [[c]]

/-- Pieces of a text between the characters that satisfy `p`. -/
def split (p : Char → Bool) (s : String) : List String :=
  (splitChars p s.toList).map String.ofList

/-- Without the carriage return that ends it, if there is one. -/
def dropReturn (cs : List Char) : List Char :=
  if cs.getLast? = some '\r' then cs.dropLast else cs

/-- Lines of a text that has been split at line feeds. All but the last piece were ended by
    one; an empty last piece is no line. -/
def endedLines : List (List Char) → List (List Char)
  | [] => []
  | [last] => if last.isEmpty then [] else [last]
  | line :: rest => dropReturn line :: endedLines rest

/-- The lines of a text, without their ends. -/
def lines (s : String) : List String :=
  (endedLines (splitChars (· = '\n') s.toList)).map String.ofList

/-- A text from its lines, each of which gets a line feed. -/
def ofLines (lines : List String) : String :=
  String.join (lines.map (· ++ "\n"))

/-- `old` replaced by `new` from left to right, where `old` is not empty; `fuel` is at least
    the length of the text. -/
def replaceChars (old new : List Char) : Nat → List Char → List Char
  | 0, cs => cs
  | _ + 1, [] => []
  | fuel + 1, c :: rest =>
    if old.isPrefixOf (c :: rest) then
      new ++ replaceChars old new fuel ((c :: rest).drop old.length)
    else c :: replaceChars old new fuel rest

/-- Every occurrence of `old` replaced by `new`. An empty `old` occurs before each character
    and at the end. -/
def replace (s old new : String) : String :=
  if old.isEmpty then
    String.ofList (new.toList ++ s.toList.flatMap fun c => c :: new.toList)
  else
    String.ofList (replaceChars old.toList new.toList s.length s.toList)

end ClientGen.Text
