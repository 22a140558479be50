import ClientGen.Json.Decode
import ClientGen.Json.Reader

/-! # Reading typed data from JSON text

Data that is decoded while its text is read, so that a value of the wrong kind is reported where it
stands.
-/

namespace ClientGen.Json

/-- Report that something else was expected than what has been read. -/
def Cursor.unwanted (error : DecodeError) (cursor : Cursor) : Except ReadError α :=
  cursor.fail (.unwanted error.message)

/-- Report the value that starts here as one of the wrong kind. A value without parts is read
    first, and its own faults win. -/
def refuseValue (expected : String) (cursor : Cursor) : Except ReadError α :=
  match cursor.rest with
  | '[' :: _ => cursor.unwanted (.wrongType "sequence" expected)
  | '\x7b' :: _ => cursor.unwanted (.wrongType "map" expected)
  | _ => do
    let (value, cursor) ← readValue cursor.budget maxDepth cursor
    cursor.unwanted (.wrongType value.describe expected)

/-- A string, which a message calls `expected`. -/
def readStringAs (expected : String) (cursor : Cursor) : Except ReadError (String × Cursor) :=
  let cursor := cursor.skipSpace
  match cursor.rest with
  | [] => cursor.fail .endInValue
  | '"' :: _ => readString cursor.next
  | _ => refuseValue expected cursor

/-- A value, or null for none. -/
def readOptional (read : Cursor → Except ReadError (α × Cursor)) (cursor : Cursor) :
    Except ReadError (Option α × Cursor) :=
  let cursor := cursor.skipSpace
  match cursor.rest with
  | 'n' :: _ => do return (none, ← readWord ['u', 'l', 'l'] cursor.next)
  | _ => do
    let (value, cursor) ← read cursor
    return (some value, cursor)

/-- Items up to the closing bracket, which is not read. -/
def readItemsWith (read : Cursor → Except ReadError (α × Cursor)) : Nat → Bool → Cursor →
    Except ReadError (List α × Cursor)
  | 0, _, cursor => cursor.fail .endInList
  | fuel + 1, first, cursor => do
    let (more, cursor) ← moreElements first cursor
    if more then
      let (item, cursor) ← read cursor
      let (items, cursor) ← readItemsWith read fuel false cursor
      return (item :: items, cursor)
    else return ([], cursor)

/-- A list. -/
def readList (read : Cursor → Except ReadError (α × Cursor)) (cursor : Cursor) :
    Except ReadError (List α × Cursor) :=
  let cursor := cursor.skipSpace
  match cursor.rest with
  | [] => cursor.fail .endInValue
  | '[' :: _ => do
    let (items, cursor) ← readItemsWith read cursor.budget true cursor.next
    return (items, cursor.next)
  | _ => refuseValue "a sequence" cursor

/-- Behind a field's name: move on to what follows it, and past a brace that ends the object. -/
def Cursor.closeObject (cursor : Cursor) : Cursor :=
  let cursor := cursor.skipSpace
  match cursor.rest with
  | '\x7d' :: _ => cursor.next
  | _ => cursor

/-- The fields of an object and its closing brace, each read by its name into what has been read
    before. Only known names may occur, each once. -/
def readRecordFields (known : List String)
    (read : String → α → Cursor → Except ReadError (α × Cursor)) : Nat → List String → α →
    Cursor → Except ReadError (α × Cursor)
  | 0, _, _, cursor => cursor.fail .endInObject
  | fuel + 1, seen, record, cursor => do
    let (more, cursor) ← moreFields seen.isEmpty cursor
    if !more then return (record, cursor.next)
    else
      let (name, cursor) ← readString cursor.next
      if !known.contains name then
        cursor.closeObject.unwanted (.unknownField name known)
      else if seen.contains name then cursor.closeObject.unwanted (.duplicateField name)
      else
        let (record, cursor) ← read name record (← readColon cursor)
        readRecordFields known read fuel (name :: seen) record cursor

/-- The items of a list that stands for a record, for the fields in their order. Some of the
    fields may be left out at the end. -/
def readRecordItems (expected : String) (optional : List String)
    (read : String → α → Cursor → Except ReadError (α × Cursor)) : Nat → List String → α →
    Cursor → Except ReadError (α × Cursor)
  | _, [], record, cursor => .ok (record, cursor)
  | index, name :: names, record, cursor => do
    let (more, cursor) ← moreElements (index = 0) cursor
    if more then
      let (record, cursor) ← read name record cursor
      readRecordItems expected optional read (index + 1) names record cursor
    else if optional.contains name then
      readRecordItems expected optional read (index + 1) names record cursor
    else cursor.next.unwanted (.wrongLength index expected)

/-- The bracket that closes a list which stands for a record. -/
def closeRecordItems (cursor : Cursor) : Except ReadError Cursor :=
  let cursor := cursor.skipSpace
  match cursor.rest with
  | [] => cursor.fail .endInList
  | ']' :: _ => .ok cursor.next
  | ',' :: _ =>
    let cursor := cursor.next.skipSpace
    match cursor.rest with
    | ']' :: _ => cursor.failAtNext .trailingComma
    | _ => cursor.failAtNext .trailingCharacters
  | _ => cursor.failAtNext .trailingCharacters

/-- A record as an object with named fields, or as a list with an item for every field. -/
def readRecord (name : String) (known optional : List String)
    (read : String → α → Cursor → Except ReadError (α × Cursor)) (start : α) (cursor : Cursor) :
    Except ReadError (α × Cursor) :=
  let cursor := cursor.skipSpace
  match cursor.rest with
  | [] => cursor.fail .endInValue
  | '\x7b' :: _ => readRecordFields known read cursor.budget [] start cursor.next
  | '[' :: _ => do
    let expected :=
      "struct " ++ name ++ " with " ++ toString known.length ++ " elements"
    let (record, cursor) ← readRecordItems expected optional read 0 known start cursor.next
    return (record, ← closeRecordItems cursor)
  | _ => refuseValue ("struct " ++ name) cursor

/-- The value that a whole text holds, read by `read`. -/
def parseWith (read : Cursor → Except ReadError (α × Cursor)) (s : String) :
    Except ReadError α := do
  let (value, cursor) ← read (Cursor.ofString s)
  readEnd cursor
  return value

end ClientGen.Json
