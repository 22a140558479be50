/-! # Reading decimal numbers

Decimal notation to the nearest floating-point number.
-/

namespace ClientGen.Decimal

/-- Value of a run of decimal digits. -/
def digitsValue (cs : List Char) : Nat :=
  cs.foldl (fun n c => 10 * n + (c.toNat - '0'.toNat)) 0

/-- The double nearest to `mantissa * 10 ^ exponent`. Exponents out of reach of every double
    are cut off before any power is computed. -/
def nearest (mantissa : Nat) (exponent : Int) : Float :=
  let size := (Nat.toDigits 10 mantissa).length
  if mantissa == 0 then 0.0
  else if exponent + size > 320 then 1.0 / 0.0
  else if exponent + size < -400 then 0.0
  else if 0 ≤ exponent then Float.ofScientific mantissa false exponent.toNat
  else Float.ofScientific mantissa true (-exponent).toNat

/-- Digits, an optional fraction and an optional exponent, with at least one digit before
    the exponent; the whole text must be used. Underscores and signs are not accepted. -/
def readUnsigned (cs : List Char) : Option Float :=
  let whole := cs.takeWhile Char.isDigit
  let rest := cs.dropWhile Char.isDigit
  let (fraction, rest) := match rest with
    | '.' :: rest => (rest.takeWhile Char.isDigit, rest.dropWhile Char.isDigit)
    | _ => ([], rest)
  if whole.isEmpty && fraction.isEmpty then none
  else
    let mantissa := digitsValue (whole ++ fraction)
    let shift : Int := -fraction.length
    match rest with
    | [] => some (nearest mantissa shift)
    | e :: rest =>
      if e != 'e' && e != 'E' then none
      else
        let (negative, digits) := match rest with
          | '-' :: digits => (true, digits)
          | '+' :: digits => (false, digits)
          | digits => (false, digits)
        if digits.isEmpty || !digits.all Char.isDigit then none
        else
          let size : Int := digitsValue digits
          some (nearest mantissa (shift + if negative then -size else size))

/-- A number with an optional sign. -/
def readFloat (cs : List Char) : Option Float :=
  match cs with
  | '-' :: rest => (readUnsigned rest).map (-·)
  | '+' :: rest => readUnsigned rest
  | _ => readUnsigned cs

end ClientGen.Decimal
