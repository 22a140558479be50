/-! # Reading position in a JSON text

The unread characters and how many lines and bytes came before them. Columns count bytes.
-/

namespace ClientGen.Json

/-- What can be wrong with a JSON text. -/
inductive Fault where
  | endInList | endInObject | endInString | endInValue
  | expectedColon | expectedListEnd | expectedObjectEnd | expectedIdent | expectedValue
  | invalidEscape | invalidNumber | numberOutOfRange | controlCharacter | keyNotString
  | loneSurrogate | trailingComma | trailingCharacters | unfinishedHexEscape | tooDeep
  /-- A value that has the right form but not the kind that is wanted here. -/
  | unwanted (message : String)
  deriving Repr, DecidableEq

def Fault.message : Fault → String
  | .endInList => "EOF while parsing a list"
  | .endInObject => "EOF while parsing an object"
  | .endInString => "EOF while parsing a string"
  | .endInValue => "EOF while parsing a value"
  | .expectedColon => "expected `:`"
  | .expectedListEnd => "expected `,` or `]`"
  | .expectedObjectEnd => "expected `,` or `\x7d`"
  | .expectedIdent => "expected ident"
  | .expectedValue => "expected value"
  | .invalidEscape => "invalid escape"
  | .invalidNumber => "invalid number"
  | .numberOutOfRange => "number out of range"
  | .controlCharacter => "control character (\\u0000-\\u001F) found while parsing a string"
  | .keyNotString => "key must be a string"
  | .loneSurrogate => "lone leading surrogate in hex escape"
  | .trailingComma => "trailing comma"
  | .trailingCharacters => "trailing characters"
  | .unfinishedHexEscape => "unexpected end of hex escape"
  | .tooDeep => "recursion limit exceeded"
  | .unwanted message => message

/-- A fault and where it shows: lines count from one, columns are the bytes before it. -/
structure ReadError where
  fault : Fault
  line : Nat
  column : Nat
  deriving Repr, DecidableEq

def ReadError.message (e : ReadError) : String :=
  e.fault.message ++ " at line " ++ toString e.line ++ " column " ++ toString e.column

/-- The unread characters, the number of the current line, and the bytes of it that are read. -/
structure Cursor where
  rest : List Char
  line : Nat
  column : Nat

namespace Cursor

def ofString (s : String) : Cursor :=
  ⟨s.toList, 1, 0⟩

/-- Move past the first `bytes` bytes of a character. -/
def past (cursor : Cursor) (c : Char) (bytes : Nat) (rest : List Char) : Cursor :=
  if c = '\n' then ⟨rest, cursor.line + 1, 0⟩ else ⟨rest, cursor.line, cursor.column + bytes⟩

/-- Move past the next character. -/
def next (cursor : Cursor) : Cursor :=
  match cursor.rest with
  | [] => cursor
  | c :: rest => cursor.past c c.utf8Size rest

/-- Move past a number of bytes, possibly into the middle of a character. -/
def skipBytes : Nat → List Char → Cursor → Cursor
  | _, [], cursor => { cursor with rest := [] }
  | bytes, c :: rest, cursor =>
    if bytes = 0 then { cursor with rest := c :: rest }
    else skipBytes (bytes - c.utf8Size) rest (cursor.past c (min bytes c.utf8Size) rest)

/-- Report a fault right behind what has been read. -/
def fail (cursor : Cursor) (fault : Fault) : Except ReadError α :=
  .error ⟨fault, cursor.line, cursor.column⟩

/-- Report a fault at the first byte of the next character. -/
def failAtNext (cursor : Cursor) (fault : Fault) : Except ReadError α :=
  match cursor.rest with
  | [] => cursor.fail fault
  | c :: rest => (cursor.past c 1 rest).fail fault

def isSpace (c : Char) : Bool :=
  c = ' ' || c = '\n' || c = '\t' || c = '\r'

/-- Move past blanks, tabs and line ends. -/
def skipSpace (cursor : Cursor) : Cursor :=
  (cursor.rest.takeWhile isSpace).foldl (fun cursor _ => cursor.next) cursor

end Cursor

end ClientGen.Json
