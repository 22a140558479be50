import ClientGen.Decimal.Reading
import ClientGen.Template.Access
import ClientGen.Template.Args
import ClientGen.Text.Blank
import ClientGen.Text.Case
import ClientGen.Text.Lines

/-! # Filters and tests

The filters and tests that every template can use. The value that is filtered or tested is
the first argument.

The tables have a part of what comes with the template language. Other filters, such as `escape`,
`map`, `select`, `round`, `split`, `sum` and `dictsort`, and other tests, such as `startingwith`,
`divisibleby` and `in`, are unknown here.
-/

namespace ClientGen.Template

namespace Filters

/-- A filter from text to text. -/
def onText (f : String → String) (passed : Passed) : Except Error Value := do
  let (s, passed) ← passed.text
  passed.done
  return .str (f s)

/-- A filter from value to value. -/
def onValue (f : Value → Except Error Value) (passed : Passed) : Except Error Value := do
  let (value, passed) ← passed.take
  passed.done
  f value

/-- Whether a character separates the words of a title. -/
def isBreak (c : Char) : Bool :=
  let n := c.toNat
  (33 ≤ n && n ≤ 47) || (58 ≤ n && n ≤ 64) || (91 ≤ n && n ≤ 96) || (123 ≤ n && n ≤ 126)
    || Text.isBlank c

/-- Every word with a capital first letter and the rest in lower case. -/
def titleChars : Bool → List Char → List Char
  | _, [] => []
  | capital, c :: rest =>
    if isBreak c then c :: titleChars true rest
    else (if capital then Text.upperChar c else Text.lowerChar c) ++ titleChars false rest

def title (s : String) : String :=
  String.ofList (titleChars true s.toList)

/-- The first character in upper case and the rest in lower case. -/
def capitalize (s : String) : String :=
  match s.toList with
  | [] => ""
  | c :: rest => String.ofList (Text.upperChar c) ++ Text.lowercase (String.ofList rest)

/-- Without characters of a set, or blanks, at both ends. -/
def trim (passed : Passed) : Except Error Value := do
  let (s, passed) ← passed.text
  let (chars, passed) ← passed.text? "chars"
  passed.done
  let p := match chars with
    | some chars => chars.toList.contains
    | none => Text.isBlank
  return .str (String.ofList (Text.dropEndWhile p (s.toList.dropWhile p)))

/-- Without one line end at the end. -/
def dropLastLineEnd (cs : List Char) : List Char :=
  let cs := if cs.getLast? = some '\n' then cs.dropLast else cs
  if cs.getLast? = some '\r' then cs.dropLast else cs

/-- The lines of a text with blanks before them. The first line and empty lines keep as they
    are, unless asked for. -/
def indentLines (width : Nat) (first blank : Bool) (s : String) : String :=
  let blanks := List.replicate width ' '
  let indented (line : List Char) := if line.isEmpty && !blank then line else blanks ++ line
  let lines := Text.splitChars (· = '\n') (dropLastLineEnd s.toList)
  let lines := match lines with
    | line :: rest => (if first then indented line else line) :: rest.map indented
    | [] => []
  String.ofList (dropLastLineEnd (['\n'].intercalate lines ++ ['\n']))

def indent (passed : Passed) : Except Error Value := do
  let (s, passed) ← passed.text
  let (width, passed) ← passed.take
  let width ← Passed.toInt "usize" width
  let (first, passed) ← passed.flag "first"
  let (blank, passed) ← passed.flag "blank"
  passed.done
  return .str (indentLines width.toNat first blank s)

def replace (passed : Passed) : Except Error Value := do
  let (s, passed) ← passed.text
  let (old, passed) ← passed.text
  let (new, passed) ← passed.text
  passed.done
  return .str (Text.replace s old new)

/-- The texts of the items, with a separator before an item unless nothing has been written
    yet. -/
def joinTexts (separator : String) (texts : List String) : String :=
  texts.foldl (fun out s => if out.isEmpty then s else out ++ separator ++ s) ""

def join (passed : Passed) : Except Error Value := do
  let (value, passed) ← passed.take
  let (separator, passed) ← passed.text? "d"
  passed.done
  match value.items? with
  | some items => return .str (joinTexts (separator.getD "") (items.map Value.text))
  | none => .error (.invalid ("cannot join value of type " ++ value.kind))

/-- The length of a value that has one. -/
def size : Value → Except Error Value
  | .str s => .ok (.int s.length)
  | .list items | .series items => .ok (.int items.length)
  | .map entries => .ok (.int entries.length)
  | value => .error (.invalid ("cannot calculate length of value of type " ++ value.kind))

def first : Value → Except Error Value
  | .str s => .ok ((Value.characters s).head?.getD .missing)
  | .list items | .series items => .ok (items.head?.getD .missing)
  | .map entries => .ok ((entries.head?.map (·.1)).getD .missing)
  | _ => .error (.invalid "cannot get first item from value")

def last : Value → Except Error Value
  | .str s => .ok ((Value.characters s).getLast?.getD .missing)
  | .list items | .series items => .ok (items.getLast?.getD .missing)
  | _ => .error (.invalid "cannot get last item from value")

def reverse : Value → Except Error Value
  | .undefined silent => .ok (.undefined silent)
  | .none => .ok .none
  | .str s => .ok (.str (String.ofList s.toList.reverse))
  | .list items | .series items => .ok (.series items.reverse)
  | .map entries => .ok (.series (entries.map (·.1)).reverse)
  | value => .error (.invalid ("cannot reverse values of type " ++ value.kind))

/-- The entries of a map as pairs. -/
def pairs : Value → Except Error Value
  | .map entries => .ok (.list (entries.map fun (key, value) => .list [key, value]))
  | _ => .error (.invalid "cannot convert value into pair list")

/-- The items of a value that is made a list. -/
def listed (value : Value) : Except Error (List Value) :=
  match value.visited with
  | .ok items => .ok items
  | .error _ => .error (.invalid "cannot convert value to list")

def list (value : Value) : Except Error Value :=
  (listed value).map .list

/-- ASCII letters in lower case. -/
def foldCase (s : String) : String :=
  String.ofList (s.toList.map Char.toLower)

/-- Order of values for sorting. -/
def precedes (caseSensitive : Bool) (a b : Value) : Bool :=
  match a, b with
  | .str s, .str t =>
    if caseSensitive then s ≤ t else foldCase s ≤ foldCase t
  | a, b => a.order b != .gt

/-- The part of a value that a path with dots leads to. -/
def follow (path : String) (value : Value) : Value :=
  (Text.split (· = '.') path).foldl
    (fun value name =>
      let key := if !name.isEmpty && name.all Char.isDigit then
          Value.int (Decimal.digitsValue name.toList)
        else .str name
      (value.part? key).getD .missing)
    value

def sort (passed : Passed) : Except Error Value := do
  let (value, passed) ← passed.take
  let items ← listed value
  let (path, passed) := ({ passed with values := [] } : Passed).take? "attribute"
  let (caseSensitive, passed) ← passed.flag "case_sensitive"
  let (reversed, passed) ← passed.flag "reverse"
  passed.done
  let key : Value → Value := match path with
    | some path => follow path.text
    | none => id
  let sorted := items.mergeSort fun a b => precedes caseSensitive (key a) (key b)
  return .list (if reversed then sorted.reverse else sorted)

/-- Another value in place of one that is undefined or, if asked for, does not count as
    true. -/
def fallback (passed : Passed) : Except Error Value := do
  let (value, passed) ← passed.take
  let (other, passed) := passed.take? "default_value"
  let (lax, passed) ← passed.flag "boolean"
  passed.done
  return if value.isUndefined || (lax && !value.isTrue) then other.getD (.str "") else value

/-- The whole number that a floating-point number is cut off to, within the range of whole
    numbers. -/
def wholePart (x : Float) : Int :=
  match Decimal.parts x with
  | .nan | .zero _ => 0
  | .infinite negative => if negative then Value.minWhole else Value.maxWhole
  | .finite negative b =>
    let (num, den) := b.fraction
    let size : Int := num / den
    if negative then max Value.minWhole (-size) else min Value.maxWhole size

/-- A text as a whole number. -/
def parseWhole? (s : String) : Option Int :=
  let (negative, digits) := match s.toList with
    | '-' :: digits => (true, digits)
    | '+' :: digits => (false, digits)
    | digits => (false, digits)
  if digits.isEmpty || !digits.all Char.isDigit then none
  else
    let size : Int := Decimal.digitsValue digits
    let i := if negative then -size else size
    if Value.minWhole ≤ i && i ≤ Value.maxWhole then some i else none

/-- A text as a floating-point number, names of special numbers included. -/
def parseFloat? (s : String) : Option Float :=
  let (negative, unsigned) := match s.toList with
    | '-' :: rest => (true, rest)
    | '+' :: rest => (false, rest)
    | cs => (false, cs)
  let size? := match foldCase (String.ofList unsigned) with
    | "inf" | "infinity" => some (1.0 / 0.0)
    | "nan" => some (0.0 / 0.0)
    | _ => Decimal.readUnsigned unsigned
  size?.map fun x => if negative then -x else x

def int : Value → Except Error Value
  | .undefined _ | .none => .ok (.int 0)
  | .bool b => .ok (.int (if b then 1 else 0))
  | .int i => .ok (.int i)
  | .float x => .ok (.int (wholePart x))
  | .str s =>
    match parseWhole? s, parseFloat? s with
    | some i, _ => .ok (.int i)
    | none, some x => .ok (.int (wholePart x))
    | none, none =>
      .error (.invalid (if s.isEmpty then "cannot parse float from empty string"
        else "invalid float literal"))
  | value => .error (.invalid ("cannot convert " ++ value.kind ++ " to integer"))

def string (value : Value) : Except Error Value :=
  .ok (.str value.text)

/-- The filters by name. -/
def table : List (String × (Passed → Except Error Value)) := [
  ("upper", onText Text.uppercase), ("lower", onText Text.lowercase),
  ("title", onText title), ("capitalize", onText capitalize), ("trim", trim),
  ("indent", indent), ("replace", replace), ("join", join), ("sort", sort),
  ("length", onValue size), ("count", onValue size), ("first", onValue first),
  ("last", onValue last), ("reverse", onValue reverse), ("items", onValue pairs),
  ("list", onValue list), ("default", fallback), ("d", fallback), ("int", onValue int),
  ("string", onValue string)]

/-- Apply a filter. -/
def apply (name : String) (passed : Passed) : Except Error Value :=
  match table.lookup name with
  | some filter => filter passed
  | none =>
    .error { kind := .unknownFilter, detail := some ("filter " ++ name ++ " is unknown") }

end Filters

namespace Tests

/-- Whether a number has the given remainder modulo two. -/
def hasParity (parity : Int) (value : Value) : Bool :=
  value.int?.any (· % 2 = parity)

def isKind (kind : String) (value : Value) : Bool :=
  value.kind == kind

def isInteger : Value → Bool
  | .int _ => true
  | _ => false

def isFloat : Value → Bool
  | .float _ => true
  | _ => false

/-- Whether a value is the given truth value. -/
def isBool (b : Bool) : Value → Bool
  | .bool c => b == c
  | _ => false

def isIterable (value : Value) : Bool :=
  value.items?.isSome

/-- The tests by name. -/
def table : List (String × (Value → Bool)) := [
  ("defined", (!·.isUndefined)), ("undefined", (·.isUndefined)), ("odd", hasParity 1),
  ("even", hasParity 0), ("string", isKind "string"), ("number", isKind "number"),
  ("none", isKind "none"), ("sequence", isKind "sequence"), ("mapping", isKind "map"),
  ("boolean", isKind "bool"), ("integer", isInteger), ("float", isFloat),
  ("true", isBool true), ("false", isBool false), ("iterable", isIterable)]

/-- Apply a test. -/
def apply (name : String) (passed : Passed) : Except Error Bool :=
  match table.lookup name with
  | some test => do
    let (value, passed) ← passed.take
    passed.done
    return test value
  | none => .error { kind := .unknownTest, detail := some ("test " ++ name ++ " is unknown") }

end Tests

end ClientGen.Template
