import ClientGen.Decimal.Printer
import ClientGen.Json.Basic
import ClientGen.Text.Quoted

/-! # JSON text

A compact form on one line, and an indented form with one entry a line.
-/

namespace ClientGen.Json

/-- A text as a JSON string. -/
def quoted (s : String) : String :=
  Text.Quoting.json.quote s

def bracketed (opening closing : String) (items : List String) : String :=
  opening ++ ",".intercalate items ++ closing

mutual

/-- The value on one line, without blanks. -/
def compact : Json → String
  | .null => "null"
  | .bool b => if b then "true" else "false"
  | .int i => toString i
  | .float x => Decimal.compactText x
  | .str s => quoted s
  | .arr items => bracketed "[" "]" (compactItems items)
  | .obj fields => bracketed "\x7b" "\x7d" (compactFields fields)

def compactItems : List Json → List String
  | [] => []
  | item :: rest => compact item :: compactItems rest

def compactFields : List (String × Json) → List String
  | [] => []
  | (name, value) :: rest => (quoted name ++ ":" ++ compact value) :: compactFields rest

end

/-- Entries one a line, two blanks deeper than the brackets around them. -/
def block (opening closing margin : String) (entries : List String) : String :=
  match entries with
  | [] => opening ++ closing
  | _ =>
    let inner := margin ++ "  "
    opening ++ "\n" ++ inner ++ (",\n" ++ inner).intercalate entries ++ "\n" ++ margin ++ closing

mutual

/-- The value over several lines, the later ones behind `margin`. -/
def indented (margin : String) : Json → String
  | .arr items => block "[" "]" margin (indentedItems (margin ++ "  ") items)
  | .obj fields => block "\x7b" "\x7d" margin (indentedFields (margin ++ "  ") fields)
  | .null => "null"
  | .bool b => if b then "true" else "false"
  | .int i => toString i
  | .float x => Decimal.compactText x
  | .str s => quoted s

def indentedItems (margin : String) : List Json → List String
  | [] => []
  | item :: rest => indented margin item :: indentedItems margin rest

def indentedFields (margin : String) : List (String × Json) → List String
  | [] => []
  | (name, value) :: rest =>
    (quoted name ++ ": " ++ indented margin value) :: indentedFields margin rest

end

/-- The value with one entry a line. -/
def pretty (value : Json) : String :=
  indented "" value

end ClientGen.Json
