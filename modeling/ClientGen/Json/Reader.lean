import ClientGen.Json.Number

/-! # JSON text to values

A strict reader. It reports the first fault with the line and column where it shows, and
refuses values nested more than 127 deep.
-/

namespace ClientGen.Json

/-- Value of a hexadecimal digit. -/
def hexValue? (c : Char) : Option Nat :=
  if c.isDigit then some (c.toNat - '0'.toNat)
  else if 'a' ≤ c && c ≤ 'f' then some (c.toNat - 'a'.toNat + 10)
  else if 'A' ≤ c && c ≤ 'F' then some (c.toNat - 'A'.toNat + 10)
  else none

/-- Four hexadecimal digits. Four bytes are read even when they are no digits. -/
def readHex (cursor : Cursor) : Except ReadError (Nat × Cursor) :=
  let bytes := (cursor.rest.take 4).foldl (fun n c => n + c.utf8Size) 0
  let cursor' := Cursor.skipBytes 4 cursor.rest cursor
  if bytes < 4 then cursor'.fail .endInString
  else
    match cursor.rest with
    | a :: b :: c :: d :: _ =>
      match hexValue? a, hexValue? b, hexValue? c, hexValue? d with
      | some a, some b, some c, some d => .ok (((a * 16 + b) * 16 + c) * 16 + d, cursor')
      | _, _, _, _ => cursor'.fail .invalidEscape
    | _ => cursor'.fail .invalidEscape

/-- The character `expected`, where a second half of a surrogate pair has to follow. -/
def readPairMark (expected : Char) (cursor : Cursor) : Except ReadError Cursor :=
  match cursor.rest with
  | [] => cursor.fail .endInString
  | c :: _ => if c = expected then .ok cursor.next else cursor.failAtNext .unfinishedHexEscape

/-- The character behind `\u`: four digits, or two surrogates. -/
def readUnicode (cursor : Cursor) : Except ReadError (Char × Cursor) := do
  let (high, cursor) ← readHex cursor
  if 0xDC00 ≤ high && high ≤ 0xDFFF then cursor.fail .loneSurrogate
  else if high < 0xD800 || 0xDBFF < high then .ok (Char.ofNat high, cursor)
  else
    let cursor ← readPairMark '\\' cursor
    let cursor ← readPairMark 'u' cursor
    let (low, cursor) ← readHex cursor
    if low < 0xDC00 || 0xDFFF < low then cursor.fail .loneSurrogate
    else .ok (Char.ofNat ((high - 0xD800) * 0x400 + (low - 0xDC00) + 0x10000), cursor)

/-- The character that an escape stands for, behind its backslash. -/
def readEscape (cursor : Cursor) : Except ReadError (Char × Cursor) :=
  match cursor.rest with
  | [] => cursor.fail .endInString
  | c :: _ =>
    match c with
    | '"' => .ok ('"', cursor.next)
    | '\\' => .ok ('\\', cursor.next)
    | '/' => .ok ('/', cursor.next)
    | 'b' => .ok ('\x08', cursor.next)
    | 'f' => .ok ('\x0c', cursor.next)
    | 'n' => .ok ('\n', cursor.next)
    | 'r' => .ok ('\r', cursor.next)
    | 't' => .ok ('\t', cursor.next)
    | 'u' => readUnicode cursor.next
    | _ => cursor.failAtNext .invalidEscape

/-- The characters of a string up to its closing quote. -/
def readChars : Nat → Cursor → Except ReadError (List Char × Cursor)
  | 0, cursor => cursor.fail .endInString
  | fuel + 1, cursor =>
    match cursor.rest with
    | [] => cursor.fail .endInString
    | '"' :: _ => .ok ([], cursor.next)
    | '\\' :: _ => do
      let (c, cursor) ← readEscape cursor.next
      let (cs, cursor) ← readChars fuel cursor
      return (c :: cs, cursor)
    | c :: _ =>
      if c.toNat < 32 then cursor.next.fail .controlCharacter
      else do
        let (cs, cursor) ← readChars fuel cursor.next
        return (c :: cs, cursor)

/-- A string, behind its opening quote. -/
def readString (cursor : Cursor) : Except ReadError (String × Cursor) := do
  let (cs, cursor) ← readChars (cursor.rest.length + 1) cursor
  return (String.ofList cs, cursor)

/-- The other letters of a word whose first letter has been read. -/
def readWord : List Char → Cursor → Except ReadError Cursor
  | [], cursor => .ok cursor
  | expected :: more, cursor =>
    match cursor.rest with
    | [] => cursor.fail .endInValue
    | c :: _ => if c = expected then readWord more cursor.next else cursor.failAtNext .expectedIdent

/-- Whether another element follows in a list, and where it starts. -/
def moreElements (first : Bool) (cursor : Cursor) : Except ReadError (Bool × Cursor) :=
  let cursor := cursor.skipSpace
  match cursor.rest with
  | [] => cursor.fail .endInList
  | ']' :: _ => .ok (false, cursor)
  | c :: _ =>
    if first then .ok (true, cursor)
    else if c = ',' then
      let cursor := cursor.next.skipSpace
      match cursor.rest with
      | [] => cursor.fail .endInValue
      | ']' :: _ => cursor.failAtNext .trailingComma
      | _ => .ok (true, cursor)
    else cursor.failAtNext .expectedListEnd

/-- Whether another field follows in an object, and where its name starts. -/
def moreFields (first : Bool) (cursor : Cursor) : Except ReadError (Bool × Cursor) :=
  let cursor := cursor.skipSpace
  match cursor.rest with
  | [] => cursor.fail .endInObject
  | '\x7d' :: _ => .ok (false, cursor)
  | c :: _ =>
    if first then
      if c = '"' then .ok (true, cursor) else cursor.failAtNext .keyNotString
    else if c = ',' then
      let cursor := cursor.next.skipSpace
      match cursor.rest with
      | [] => cursor.fail .endInValue
      | '"' :: _ => .ok (true, cursor)
      | '\x7d' :: _ => cursor.failAtNext .trailingComma
      | _ => cursor.failAtNext .keyNotString
    else cursor.failAtNext .expectedObjectEnd

/-- The colon between a field's name and its value. -/
def readColon (cursor : Cursor) : Except ReadError Cursor :=
  let cursor := cursor.skipSpace
  match cursor.rest with
  | [] => cursor.fail .endInObject
  | ':' :: _ => .ok cursor.next
  | _ => cursor.failAtNext .expectedColon

mutual

/-- A value in at most `depth` further levels of brackets. -/
def readValue : Nat → Nat → Cursor → Except ReadError (Json × Cursor)
  | 0, _, cursor => cursor.fail .endInValue
  | fuel + 1, depth, cursor =>
    let cursor := cursor.skipSpace
    match cursor.rest with
    | [] => cursor.fail .endInValue
    | c :: _ =>
      if c = 'n' then do return (.null, ← readWord ['u', 'l', 'l'] cursor.next)
      else if c = 't' then do return (.bool true, ← readWord ['r', 'u', 'e'] cursor.next)
      else if c = 'f' then do return (.bool false, ← readWord ['a', 'l', 's', 'e'] cursor.next)
      else if c = '-' then readNumber false cursor.next
      else if c.isDigit then readNumber true cursor
      else if c = '"' then do
        let (s, cursor) ← readString cursor.next
        return (.str s, cursor)
      else if c = '[' then
        if depth ≤ 1 then cursor.failAtNext .tooDeep
        else do
          let (items, cursor) ← readElements fuel (depth - 1) true cursor.next
          return (.arr items, cursor)
      else if c = '\x7b' then
        if depth ≤ 1 then cursor.failAtNext .tooDeep
        else do
          let (fields, cursor) ← readFields fuel (depth - 1) true [] cursor.next
          return (.obj fields, cursor)
      else cursor.failAtNext .expectedValue

/-- The elements of a list and its closing bracket. -/
def readElements : Nat → Nat → Bool → Cursor → Except ReadError (List Json × Cursor)
  | 0, _, _, cursor => cursor.fail .endInList
  | fuel + 1, depth, first, cursor => do
    let (more, cursor) ← moreElements first cursor
    if more then
      let (item, cursor) ← readValue fuel depth cursor
      let (items, cursor) ← readElements fuel depth false cursor
      return (item :: items, cursor)
    else return ([], cursor.next)

/-- The fields of an object and its closing brace, added to the fields before them. -/
def readFields : Nat → Nat → Bool → List (String × Json) → Cursor →
    Except ReadError (List (String × Json) × Cursor)
  | 0, _, _, _, cursor => cursor.fail .endInObject
  | fuel + 1, depth, first, fields, cursor => do
    let (more, cursor) ← moreFields first cursor
    if more then
      let (name, cursor) ← readString cursor.next
      let cursor ← readColon cursor
      let (value, cursor) ← readValue fuel depth cursor
      readFields fuel depth false (insertField name value fields) cursor
    else return (fields, cursor.next)

end

/-- Levels of brackets that a text may not reach. -/
def maxDepth : Nat := 128

/-- Steps that suffice for every text with this many unread characters. -/
def Cursor.budget (cursor : Cursor) : Nat :=
  2 * cursor.rest.length + 4

/-- Nothing but blanks may follow a document. -/
def readEnd (cursor : Cursor) : Except ReadError Unit :=
  let cursor := cursor.skipSpace
  match cursor.rest with
  | [] => .ok ()
  | _ => cursor.failAtNext .trailingCharacters

/-- The value that a whole text holds. -/
def parse (s : String) : Except ReadError Json := do
  let cursor := Cursor.ofString s
  let (value, cursor) ← readValue cursor.budget maxDepth cursor
  readEnd cursor
  return value

end ClientGen.Json
