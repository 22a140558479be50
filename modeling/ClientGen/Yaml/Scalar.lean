import ClientGen.Decimal.Reading
import ClientGen.Json.Basic
import ClientGen.Text.Quoted
import ClientGen.Yaml.Token.Directive

/-! # Values of scalars

A plain scalar is null, a truth value, a number or a text, depending on how it looks. Other
scalars are texts. A tag decides against both.
-/

namespace ClientGen.Yaml

def nullWords : List String := ["null", "Null", "NULL", "~"]

def boolWords : List (String × Bool) := [
  ("true", true), ("True", true), ("TRUE", true), ("false", false), ("False", false),
  ("FALSE", false)]

/-- Numbers that no JSON number can express. -/
def boundlessWords : List String := [
  ".inf", ".Inf", ".INF", "+.inf", "+.Inf", "+.INF", "-.inf", "-.Inf", "-.INF",
  ".nan", ".NaN", ".NAN"]

/-- Value of a whole run of digits in some base. -/
def digitsIn (base : Nat) (cs : List Char) : Option Nat :=
  if cs.isEmpty then none
  else do
    let digits ← cs.mapM hexDigit?
    if digits.all (· < base) then some (digits.foldl (fun n d => base * n + d) 0) else none

/-- A whole number with a base mark, or in base ten without superfluous zeros. -/
def readMagnitude : List Char → Option Nat
  | '0' :: 'x' :: digits => digitsIn 16 digits
  | '0' :: 'o' :: digits => digitsIn 8 digits
  | '0' :: 'b' :: digits => digitsIn 2 digits
  | '0' :: _ :: _ => none
  | digits => digitsIn 10 digits

def readInteger : List Char → Option Int
  | '-' :: rest => (readMagnitude rest).map fun n => -(n : Int)
  | '+' :: rest => (readMagnitude rest).map Int.ofNat
  | cs => (readMagnitude cs).map Int.ofNat

/-- Bounds of the whole numbers of 128 bits, with and without a sign. -/
def leastSigned : Int := -170141183460469231731687303715884105728

def greatestUnsigned : Int := 340282366920938463463374607431768211455

/-- A whole number is no number at all outside of 128 bits, and cannot be expressed outside of
    64 bits. -/
def integerValue? (text : String) : Option (Except String Json) :=
  match readInteger text.toList with
  | none => none
  | some i =>
    if Json.minInt ≤ i && i ≤ Json.maxInt then some (.ok (.int i))
    else if leastSigned ≤ i && i ≤ greatestUnsigned then some (.error "JSON number out of range")
    else none

/-- Floating-point numbers out of range are no numbers. -/
def floatValue? (text : String) : Option Json :=
  if boundlessWords.contains text then some .null
  else
    match Decimal.readFloat text.toList with
    | some x => if x.isFinite then some (.float x) else none
    | none => none

/-- Digits with a leading zero that are not meant as a number. -/
def isPadded (text : String) : Bool :=
  let digits := match text.toList with
    | '-' :: rest | '+' :: rest => rest
    | cs => cs
  1 < digits.length && digits.head? = some '0' && digits.all Char.isDigit

/-- The value of a plain scalar. -/
def plainValue (text : String) : Except String Json :=
  if text.isEmpty || nullWords.contains text then .ok .null
  else
    match boolWords.lookup text, integerValue? text with
    | some b, _ => .ok (.bool b)
    | none, some value => value
    | none, none =>
      if isPadded text then .ok (.str text) else .ok ((floatValue? text).getD (.str text))

/-- Report a scalar that is not what its tag says. -/
def notA (expected text : String) : Except String Json :=
  .error ("invalid value: string " ++ Text.shown text ++ ", expected " ++ expected)

def boolTag : List Char := "tag:yaml.org,2002:bool".toList
def intTag : List Char := "tag:yaml.org,2002:int".toList
def floatTag : List Char := "tag:yaml.org,2002:float".toList
def nullTag : List Char := "tag:yaml.org,2002:null".toList

/-- The value of a scalar with or without a tag. -/
def scalarValue (tag : Option (List Char)) (text : String) (plain : Bool) : Except String Json :=
  match tag with
  | none => if plain then plainValue text else .ok (.str text)
  | some tag =>
    if tag = boolTag then
      match boolWords.lookup text with
      | some b => .ok (.bool b)
      | none => notA "a boolean" text
    else if tag = intTag then (integerValue? text).getD (notA "an integer" text)
    else if tag = floatTag then
      match floatValue? text with
      | some value => .ok value
      | none => notA "a float" text
    else if tag = nullTag then
      if nullWords.contains text then .ok .null else notA "null" text
    else if plain && tag.head? = some '!' then plainValue text
    else .ok (.str text)

end ClientGen.Yaml
