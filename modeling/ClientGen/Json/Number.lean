import ClientGen.Decimal.Reading
import ClientGen.Json.Basic
import ClientGen.Json.Cursor

/-! # Numbers in JSON text

A number without fraction and exponent is whole if it fits; every other number is
floating-point. Significant digits are collected in 64 bits, and the powers of ten are
applied to the collected number.
-/

namespace ClientGen.Json

/-- Largest number of 64 bits. -/
def maxWord : Nat := 0xFFFFFFFFFFFFFFFF

/-- Apply `10 ^ exponent` to a floating-point number, in steps that stay in range; none when
    the result is out of range. -/
def scale : Nat → Float → Int → Option Float
  | 0, x, _ => some x
  | fuel + 1, x, exponent =>
    if exponent.natAbs ≤ 308 then
      let power := Float.ofScientific 1 false exponent.natAbs
      if 0 ≤ exponent then
        let y := x * power
        if y.isInf then none else some y
      else some (x / power)
    else if x == 0.0 then some x
    else if 0 ≤ exponent then none
    else scale fuel (x / 1e308) (exponent + 308)

/-- The floating-point number made of a sign, significant digits and an exponent. -/
def fromParts (positive : Bool) (significand : Nat) (exponent : Int) (cursor : Cursor) :
    Except ReadError (Json × Cursor) :=
  match scale 1200 (UInt64.ofNat significand).toFloat exponent with
  | some x => .ok (.float (if positive then x else -x), cursor)
  | none => cursor.fail .numberOutOfRange

/-- Leading digits that still fit 64 bits, behind `significand`, and how many there are. -/
def takeDigits (significand count : Nat) : List Char → Nat × Nat
  | [] => (significand, count)
  | c :: rest =>
    if c.isDigit then
      let grown := significand * 10 + (c.toNat - '0'.toNat)
      if grown ≤ maxWord then takeDigits grown (count + 1) rest else (significand, count)
    else (significand, count)

def skipChars (cursor : Cursor) (count : Nat) : Cursor :=
  ⟨cursor.rest.drop count, cursor.line, cursor.column + count⟩

/-- Digits at the cursor. -/
def digitRun (cursor : Cursor) : List Char :=
  cursor.rest.takeWhile Char.isDigit

def skipDigits (cursor : Cursor) : Cursor :=
  skipChars cursor (digitRun cursor).length

/-- Largest exponent that is kept as it is written. -/
def maxExponent : Int := 0x7FFFFFFF

def clampExponent (e : Int) : Int :=
  max (-maxExponent - 1) (min maxExponent e)

/-- How many of the digits, at least one, make an exponent that is not too large. -/
def exponentDigits (value : Int) (count : Nat) : List Char → Int × Nat × Bool
  | [] => (value, count, true)
  | c :: rest =>
    let grown := value * 10 + (c.toNat - '0'.toNat : Nat)
    if grown ≤ maxExponent then exponentDigits grown (count + 1) rest
    else (value, count + 1, false)

/-- Whether an exponent is positive, and where its digits start. -/
def exponentSign (cursor : Cursor) : Bool × Cursor :=
  match cursor.rest with
  | '+' :: _ => (true, cursor.next)
  | '-' :: _ => (false, cursor.next)
  | _ => (true, cursor)

/-- The exponent behind its letter. -/
def readExponent (positive : Bool) (significand : Nat) (start : Int) (cursor : Cursor) :
    Except ReadError (Json × Cursor) := do
  let (up, cursor) := exponentSign cursor.next
  match cursor.rest with
  | [] => cursor.fail .endInValue
  | c :: _ =>
    if !c.isDigit then cursor.failAtNext .invalidNumber
    else
      let (value, count, fits) := exponentDigits 0 0 (digitRun cursor)
      if fits then
        let exponent := clampExponent (if up then start + value else start - value)
        fromParts positive significand exponent (skipChars cursor count)
      else if significand != 0 && up then
        (skipChars cursor count).fail .numberOutOfRange
      else
        .ok (.float (if positive then 0.0 else -0.0), skipDigits cursor)

/-- What follows the digits of a floating-point number: an exponent or its end. -/
def readScale (positive : Bool) (significand : Nat) (exponent : Int) (cursor : Cursor) :
    Except ReadError (Json × Cursor) :=
  match cursor.rest with
  | 'e' :: _ | 'E' :: _ => readExponent positive significand exponent cursor
  | _ => fromParts positive significand exponent cursor

/-- The fraction behind its point. Digits that no longer fit are read and dropped. -/
def readFraction (positive : Bool) (significand : Nat) (exponent : Int) (cursor : Cursor) :
    Except ReadError (Json × Cursor) :=
  let cursor := cursor.next
  let digits := digitRun cursor
  if digits.isEmpty then
    match cursor.rest with
    | [] => cursor.fail .endInValue
    | _ => cursor.failAtNext .invalidNumber
  else
    let (grown, count) := takeDigits significand 0 digits
    readScale positive grown (exponent - count) (skipDigits cursor)

/-- What follows the whole part. -/
def readTail (positive : Bool) (significand : Nat) (cursor : Cursor) :
    Except ReadError (Json × Cursor) :=
  match cursor.rest with
  | '.' :: _ => readFraction positive significand 0 cursor
  | 'e' :: _ | 'E' :: _ => readExponent positive significand 0 cursor
  | _ =>
    if positive then .ok (.int significand, cursor)
    else if significand = 0 || Json.minInt.natAbs < significand then
      .ok (.float (-(UInt64.ofNat significand).toFloat), cursor)
    else .ok (.int (-significand), cursor)

/-- What follows a whole part that is too long: its other digits count as tens. -/
def readLongTail (positive : Bool) (significand : Nat) (dropped : Nat) (cursor : Cursor) :
    Except ReadError (Json × Cursor) :=
  match cursor.rest with
  | '.' :: _ => readFraction positive significand dropped cursor
  | _ => readScale positive significand dropped cursor

/-- A number, behind its sign. -/
def readNumber (positive : Bool) (cursor : Cursor) : Except ReadError (Json × Cursor) :=
  match cursor.rest with
  | [] => cursor.fail .endInValue
  | c :: rest =>
    if c = '0' then
      let cursor := cursor.next
      match rest with
      | d :: _ => if d.isDigit then cursor.failAtNext .invalidNumber else readTail positive 0 cursor
      | [] => readTail positive 0 cursor
    else if c.isDigit then
      let digits := digitRun cursor
      let (significand, count) := takeDigits 0 0 digits
      let cursor := skipDigits cursor
      if count = digits.length then readTail positive significand cursor
      else readLongTail positive significand (digits.length - count) cursor
    else cursor.failAtNext .invalidNumber

end ClientGen.Json
