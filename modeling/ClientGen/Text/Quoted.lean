import ClientGen.Text.CaseTable
import ClientGen.Text.HiddenTable

/-! # Quoted text

A text between double quotes, with escapes for what would end the quotes or cannot be
seen. Three notations share the quotes and differ in their escapes.
-/

namespace ClientGen.Text

/-- How a text is quoted in a source file. -/
inductive Quoting where
  /-- JSON escapes: control characters as `\u` and four digits. -/
  | json
  /-- JSON escapes, and a backslash before each dollar sign. -/
  | dart
  /-- Escapes by code point in braces for every character that is not shown. -/
  | rust
  deriving Repr, DecidableEq

/-- Lower-case hexadecimal digits of a number, at least `width` of them. -/
def hexDigits (width n : Nat) : List Char :=
  let digits := Nat.toDigits 16 n
  List.replicate (width - digits.length) '0' ++ digits

/-- A character inside a JSON text. -/
def escapeJson (c : Char) : List Char :=
  if c = '"' then ['\\', '"']
  else if c = '\\' then ['\\', '\\']
  else if c = '\x08' then ['\\', 'b']
  else if c = '\x0c' then ['\\', 'f']
  else if c = '\n' then ['\\', 'n']
  else if c = '\r' then ['\\', 'r']
  else if c = '\t' then ['\\', 't']
  else if c.toNat < 32 then ['\\', 'u'] ++ hexDigits 4 c.toNat
  else [c]

/-- A character inside a text that a dollar sign would interpolate. -/
def escapeDart (c : Char) : List Char :=
  if c = '$' then ['\\', '$'] else escapeJson c

/-- Whether a quoted text spells the character out by number. -/
def isHidden (c : Char) : Bool :=
  inRanges hiddenRanges c.toNat

/-- A character inside a text with braced escapes. -/
def escapeRust (c : Char) : List Char :=
  if c = '"' then ['\\', '"']
  else if c = '\\' then ['\\', '\\']
  else if c = '\x00' then ['\\', '0']
  else if c = '\n' then ['\\', 'n']
  else if c = '\r' then ['\\', 'r']
  else if c = '\t' then ['\\', 't']
  else if isHidden c then ['\\', 'u', '\x7b'] ++ hexDigits 1 c.toNat ++ ['\x7d']
  else [c]

/-- The escape of one character in a notation. -/
def Quoting.escape : Quoting → Char → List Char
  | .json => escapeJson
  | .dart => escapeDart
  | .rust => escapeRust

/-- A text in quotes. -/
def Quoting.quote (quoting : Quoting) (s : String) : String :=
  String.ofList ('"' :: s.toList.flatMap quoting.escape ++ ['"'])

/-- A text in quotes, as messages show it. -/
def shown (s : String) : String :=
  Quoting.rust.quote s

end ClientGen.Text
