/-! # Reading position in a YAML text

The unread characters and the place of the next one. Lines and columns count from zero, columns
in characters.
-/

namespace ClientGen.Yaml

/-- A place in a text. -/
structure Mark where
  /-- Characters before it. -/
  index : Nat := 0
  line : Nat := 0
  column : Nat := 0
  deriving Repr, DecidableEq, Inhabited

namespace Mark

/-- Whether this is the place of the first character. -/
def isStart (mark : Mark) : Bool :=
  mark.line = 0 && mark.column = 0

/-- The place as a message names it; lines and columns count from one there. -/
def shown (mark : Mark) : String :=
  "line " ++ toString (mark.line + 1) ++ " column " ++ toString (mark.column + 1)

/-- What a message says about the place; nothing about the start of the text. -/
def suffix (mark : Mark) : String :=
  if mark.isStart then "" else " at " ++ mark.shown

def sameLineColumn (a b : Mark) : Bool :=
  a.line = b.line && a.column = b.column

end Mark

/-- Characters that end a line. -/
def isBreak (c : Char) : Bool :=
  c = '\n' || c = '\r' || c = '\x85' || c = '\u2028' || c = '\u2029'

def isBlank (c : Char) : Bool :=
  c = ' ' || c = '\t'

/-- Characters of anchors, tag handles and directive names. -/
def isWordChar (c : Char) : Bool :=
  c.isAlphanum || c = '-' || c = '_'

/-- Characters that a text may hold at all. -/
def isAllowed (c : Char) : Bool :=
  c = '\t' || c = '\n' || c = '\r' || (' ' ≤ c && c ≤ '~') || c = '\x85'
    || ('\xa0' ≤ c && c ≤ '\ud7ff') || ('\ue000' ≤ c && c ≤ '\ufffd') || '\uffff' < c

/-- The mark that may stand in front of a text and of every line. -/
def byteOrderMark : Char := '\ufeff'

/-- Whether a line, or the text, ends here. -/
def breakOrEnd : List Char → Bool
  | [] => true
  | c :: _ => isBreak c

/-- Whether a blank stands here, or a line or the text ends. -/
def blankOrEnd : List Char → Bool
  | [] => true
  | c :: _ => isBlank c || isBreak c

/-- The unread characters and the place of the first of them. -/
structure Cursor where
  rest : List Char
  mark : Mark := {}
  deriving Inhabited

namespace Cursor

/-- Move past characters of the line. -/
def skip (count : Nat) (cursor : Cursor) : Cursor :=
  let read := min count cursor.rest.length
  ⟨cursor.rest.drop count,
    { cursor.mark with index := cursor.mark.index + read, column := cursor.mark.column + read }⟩

/-- Move past one character of the line. -/
def next (cursor : Cursor) : Cursor :=
  cursor.skip 1

/-- The characters of the line as long as they are in a class, and the place behind them. -/
def span (p : Char → Bool) (cursor : Cursor) : List Char × Cursor :=
  let chars := cursor.rest.takeWhile p
  (chars, cursor.skip chars.length)

def skipWhile (p : Char → Bool) (cursor : Cursor) : Cursor :=
  (cursor.span p).2

/-- Move past blanks and tabs. -/
def skipBlanks (cursor : Cursor) : Cursor :=
  cursor.skipWhile isBlank

/-- Move to the end of the line if a comment starts here. -/
def skipComment (cursor : Cursor) : Cursor :=
  match cursor.rest with
  | '#' :: _ => cursor.skipWhile (!isBreak ·)
  | _ => cursor

/-- The place at the start of the next line, behind `width` characters. -/
def newLine (cursor : Cursor) (width : Nat) (rest : List Char) : Cursor :=
  ⟨rest, { index := cursor.mark.index + width, line := cursor.mark.line + 1, column := 0 }⟩

/-- Read the end of a line, if one is here. Carriage returns and next-line characters count as
    line feeds; line and paragraph separators are kept. -/
def readBreak (cursor : Cursor) : List Char × Cursor :=
  match cursor.rest with
  | '\r' :: '\n' :: rest => (['\n'], cursor.newLine 2 rest)
  | c :: rest =>
    if c = '\u2028' || c = '\u2029' then ([c], cursor.newLine 1 rest)
    else if isBreak c then (['\n'], cursor.newLine 1 rest)
    else ([], cursor)
  | [] => ([], cursor)

/-- Move past the end of a line, if one is here. -/
def skipBreak (cursor : Cursor) : Cursor :=
  cursor.readBreak.2

/-- Whether a line starts here with three times a character, and then a blank or its end. -/
def atIndicator (c : Char) (cursor : Cursor) : Bool :=
  cursor.mark.column = 0 && cursor.rest.take 3 == [c, c, c] && blankOrEnd (cursor.rest.drop 3)

/-- Whether a document starts or ends here. -/
def atDocumentIndicator (cursor : Cursor) : Bool :=
  cursor.atIndicator '-' || cursor.atIndicator '.'

/-- Steps that suffice for every loop that reads on in each step. -/
def budget (cursor : Cursor) : Nat :=
  cursor.rest.length + 2

end Cursor

end ClientGen.Yaml
