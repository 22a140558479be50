import ClientGen.Yaml.Error
import ClientGen.Yaml.Token

/-! # Reading tags, anchors and directives -/

namespace ClientGen.Yaml

/-- Value of a hexadecimal digit. -/
def hexDigit? (c : Char) : Option Nat :=
  if c.isDigit then some (c.toNat - '0'.toNat)
  else if 'a' ≤ c && c ≤ 'f' then some (c.toNat - 'a'.toNat + 10)
  else if 'A' ≤ c && c ≤ 'F' then some (c.toNat - 'A'.toNat + 10)
  else none

/-- A tag handle: an exclamation mark, or word characters between two. The second one may be
    missing in a tag, where the word then belongs to what follows the handle. -/
def readHandle (directive : Bool) (start : Mark) (cursor : Cursor) :
    Except Fault (List Char × Cursor) :=
  match cursor.rest with
  | '!' :: _ =>
    let (word, after) := cursor.next.span isWordChar
    match after.rest with
    | '!' :: _ => .ok ('!' :: word ++ ['!'], after.next)
    | _ =>
      if directive && !word.isEmpty then after.fail .exclamationExpected .tagDirectiveBang start
      else .ok ('!' :: word, after)
  | _ =>
    cursor.fail .exclamationExpected (if directive then .tagDirectiveHandle else .tag) start

def uriMarks : List Char :=
  [';', '/', '?', ':', '@', '&', '=', '+', '$', '.', '%', '!', '~', '*', '\'', '(', ')']

/-- Characters of a tag; a few more are allowed where no flow collection can be meant. -/
def isUriChar (wide : Bool) (c : Char) : Bool :=
  isWordChar c || uriMarks.contains c || (wide && [',', '[', ']'].contains c)

/-- How many bytes a UTF-8 sequence has that starts with this one. -/
def sequenceLength (octet : Nat) : Nat :=
  if octet < 0x80 then 1
  else if octet / 0x20 = 6 then 2
  else if octet / 0x10 = 14 then 3
  else if octet / 8 = 30 then 4
  else 0

/-- A percent sign and two hexadecimal digits. -/
def readOctet (activity : Activity) (start : Mark) (cursor : Cursor) :
    Except Fault (Nat × Cursor) :=
  match cursor.rest with
  | '%' :: a :: b :: _ =>
    match hexDigit? a, hexDigit? b with
    | some a, some b => .ok (16 * a + b, cursor.skip 3)
    | _, _ => cursor.fail .escapedOctetExpected activity start
  | _ => cursor.fail .escapedOctetExpected activity start

/-- The other bytes of an escaped character. -/
def readTrailing (activity : Activity) (start : Mark) : Nat → Cursor →
    Except Fault (List Char × Cursor)
  | 0, cursor => .ok ([], cursor)
  | count + 1, cursor => do
    let (octet, after) ← readOctet activity start cursor
    if octet / 0x40 != 2 then cursor.fail .badTrailingOctet activity start
    else
      let (octets, after) ← readTrailing activity start count after
      return (Char.ofNat octet :: octets, after)

/-- The bytes of one escaped character. -/
def readEscapedChar (activity : Activity) (start : Mark) (cursor : Cursor) :
    Except Fault (List Char × Cursor) := do
  let (octet, after) ← readOctet activity start cursor
  match sequenceLength octet with
  | 0 => cursor.fail .badLeadingOctet activity start
  | length + 1 =>
    let (octets, after) ← readTrailing activity start length after
    return (Char.ofNat octet :: octets, after)

/-- As many characters of a tag as there are. -/
def readUriChars (wide : Bool) (activity : Activity) (start : Mark) : Nat → Cursor →
    Except Fault (List Char × Cursor)
  | 0, cursor => .ok ([], cursor)
  | fuel + 1, cursor =>
    match cursor.rest with
    | [] => .ok ([], cursor)
    | c :: _ =>
      if !isUriChar wide c then .ok ([], cursor)
      else do
        let (chars, cursor) ←
          if c = '%' then readEscapedChar activity start cursor
          else (.ok ([c], cursor.next) : Except Fault (List Char × Cursor))
        let (more, cursor) ← readUriChars wide activity start fuel cursor
        return (chars ++ more, cursor)

/-- The characters of a tag behind `head`; with an empty head there has to be one. -/
def readUri (wide : Bool) (activity : Activity) (head : List Char) (start : Mark)
    (cursor : Cursor) : Except Fault (List Char × Cursor) := do
  let (chars, cursor) ← readUriChars wide activity start cursor.budget cursor
  if head.isEmpty && chars.isEmpty then cursor.fail .tagUriExpected activity start
  else return (head.drop 1 ++ chars, cursor)

/-- The parts of a tag, up to whatever follows it. -/
def readTagText (cursor : Cursor) : Except Fault (TagText × Cursor) := do
  let start := cursor.mark
  match cursor.rest with
  | '!' :: '<' :: _ =>
    let (uri, cursor) ← readUri true .tagUri [] start (cursor.skip 2)
    match cursor.rest with
    | '>' :: _ => return (⟨[], uri⟩, cursor.next)
    | _ => cursor.fail .closingAngleExpected .tag start
  | _ =>
    let (handle, cursor) ← readHandle false start cursor
    if 1 < handle.length && handle.getLast? = some '!' then
      let (uri, cursor) ← readUri false .tagUri [] start cursor
      return (⟨handle, uri⟩, cursor)
    else
      let (uri, cursor) ← readUri false .tagUri handle start cursor
      if uri.isEmpty then return (⟨[], ['!']⟩, cursor)
      else return (⟨['!'], uri⟩, cursor)

/-- A tag, which ends at a blank, at the end of its line, or at a comma between brackets. -/
def readTag (inFlow : Bool) (cursor : Cursor) : Except Fault (Token × Cursor) := do
  let (text, after) ← readTagText cursor
  if blankOrEnd after.rest || (inFlow && after.rest.head? = some ',') then
    return (.tag text, after)
  else after.fail .blankOrBreakExpected .tag cursor.mark

/-- Characters that may stand right behind the name of an anchor. -/
def anchorEnds : List Char := ['?', ':', ',', ']', '\x7d', '%', '@', '\x60']

/-- The name of an anchor or an alias, behind its first character. -/
def readAnchorName (activity : Activity) (cursor : Cursor) :
    Except Fault (List Char × Cursor) :=
  let (name, after) := cursor.next.span isWordChar
  if !name.isEmpty && (blankOrEnd after.rest || after.rest.head?.any anchorEnds.contains) then
    .ok (name, after)
  else after.fail .wordCharacterExpected activity cursor.mark

/-- A part of a version number. -/
def readVersionPart (start : Mark) (cursor : Cursor) : Except Fault (Nat × Cursor) :=
  let (digits, after) := cursor.span Char.isDigit
  if digits.isEmpty then cursor.fail .versionExpected .versionDirective start
  else if 9 < digits.length then
    (cursor.skip 9).fail .longVersion .versionDirective start
  else .ok (digits.foldl (fun n c => 10 * n + (c.toNat - '0'.toNat)) 0, after)

def readVersion (start : Mark) (cursor : Cursor) : Except Fault (Token × Cursor) := do
  let (major, cursor) ← readVersionPart start cursor.skipBlanks
  match cursor.rest with
  | '.' :: _ =>
    let (minor, cursor) ← readVersionPart start cursor.next
    return (.version major minor, cursor)
  | _ => cursor.fail .digitOrDotExpected .versionDirective start

/-- What a tag handle stands for. -/
def readTagDirective (start : Mark) (cursor : Cursor) : Except Fault (Token × Cursor) := do
  let (handle, cursor) ← readHandle true start cursor.skipBlanks
  if !cursor.rest.head?.any isBlank then cursor.fail .blankExpected .tagDirective start
  else
    let (meaning, cursor) ← readUri true .tagDirectivePrefix [] start cursor.skipBlanks
    if blankOrEnd cursor.rest then return (.tagDirective handle meaning, cursor)
    else cursor.fail .blankOrBreakExpected .tagDirective start

/-- A directive with the end of its line. -/
def readDirective (cursor : Cursor) : Except Fault (Token × Cursor) := do
  let start := cursor.mark
  let (name, cursor) := cursor.next.span isWordChar
  if name.isEmpty then cursor.fail .directiveNameExpected .directive start
  else if !blankOrEnd cursor.rest then cursor.fail .nonWordCharacter .directive start
  else
    let (token, cursor) ←
      if name = "YAML".toList then readVersion start cursor
      else if name = "TAG".toList then readTagDirective start cursor
      else (cursor.fail .unknownDirective .directive start : Except Fault (Token × Cursor))
    let cursor := cursor.skipBlanks.skipComment
    if breakOrEnd cursor.rest then return (token, cursor.skipBreak)
    else cursor.fail .commentOrBreakExpected .directive start

end ClientGen.Yaml
