/-! # Reading bytes as text

Bytes that are not UTF-8 still give a text. A replacement character shows for every start of a
character that does not go on as one, and for every byte that starts none.
-/

namespace ClientGen.Text.Utf8

def replacement : Char := '\uFFFD'

/-- Most bytes after the first one of a character: the least and the greatest of them. -/
def later : UInt8 × UInt8 := (0x80, 0xBF)

/-- The bytes that can follow the first byte of a character, place by place. No character
    starts with any other byte. -/
def following? (first : UInt8) : Option (List (UInt8 × UInt8)) :=
  if first < 0x80 then some []
  else if 0xC2 ≤ first && first ≤ 0xDF then some [later]
  else if first == 0xE0 then some [(0xA0, 0xBF), later]
  else if first == 0xED then some [(0x80, 0x9F), later]
  else if 0xE1 ≤ first && first ≤ 0xEF then some [later, later]
  else if first == 0xF0 then some [(0x90, 0xBF), later, later]
  else if 0xF1 ≤ first && first ≤ 0xF3 then some [later, later, later]
  else if first == 0xF4 then some [(0x80, 0x8F), later, later]
  else none

/-- A character that has been started: its code so far, and the bytes that are to follow. -/
structure Started where
  code : Nat := 0
  due : List (UInt8 × UInt8) := []

/-- The first byte of a character: what shows at once, and what is started. -/
def start (byte : UInt8) : List Char × Started :=
  match following? byte with
  | none => ([replacement], {})
  | some [] => ([Char.ofNat byte.toNat], {})
  | some due => ([], { code := byte.toNat % Nat.pow 2 (6 - due.length), due })

/-- The next byte: it goes on with the character that has been started, or starts another. -/
def next (started : Started) (byte : UInt8) : List Char × Started :=
  match started.due with
  | [] => start byte
  | (least, greatest) :: due =>
    if least ≤ byte && byte ≤ greatest then
      let code := started.code * 64 + byte.toNat % 64
      (if due.isEmpty then [Char.ofNat code] else [], { code, due })
    else
      let (shown, started) := start byte
      (replacement :: shown, started)

def chars (started : Started) : List UInt8 → List Char
  | [] => if started.due.isEmpty then [] else [replacement]
  | byte :: rest =>
    let (shown, started) := next started byte
    shown ++ chars started rest

/-- The text of bytes, be they UTF-8 or not. -/
def read (bytes : ByteArray) : String :=
  (String.fromUTF8? bytes).getD (.ofList (chars {} bytes.toList))

@[simp] theorem read_toByteArray (text : String) : read text.toByteArray = text := by
  have valid : String.fromUTF8? text.toByteArray = some text := dif_pos text.isValidUTF8
  rw [read, valid, Option.getD_some]

end ClientGen.Text.Utf8
