import ClientGen.Decimal.Digits

/-! # Decimal text of floating-point numbers

Two notations over the same shortest digits: a positional one for templates, and one with
exponents for JSON.
-/

namespace ClientGen.Decimal

def digitChars (digits : List Nat) : List Char :=
  digits.map fun d => Char.ofNat ('0'.toNat + d)

/-- Digits with a point and no exponent; a whole number keeps one zero after the point. -/
def Digits.positional (d : Digits) : List Char :=
  let cs := digitChars d.digits
  if d.point ≤ 0 then
    '0' :: '.' :: List.replicate (-d.point).toNat '0' ++ cs
  else if cs.length ≤ d.point.toNat then
    cs ++ List.replicate (d.point.toNat - cs.length) '0' ++ ['.', '0']
  else
    cs.take d.point.toNat ++ '.' :: cs.drop d.point.toNat

/-- One digit, a point if more follow, and the exponent with its sign. -/
def Digits.scientific (d : Digits) : List Char :=
  let cs := digitChars d.digits
  let lead := match cs with
    | [] => []
    | [c] => [c]
    | c :: rest => c :: '.' :: rest
  let exponent := d.point - 1
  lead ++ 'e' :: (if exponent < 0 then '-' else '+') :: Nat.toDigits 10 exponent.natAbs

/-- Positional from `0.00001` up to sixteen digits before the point, else with an exponent. -/
def Digits.compact (d : Digits) : List Char :=
  if -5 < d.point && d.point ≤ 16 then d.positional else d.scientific

def signed (negative : Bool) (cs : List Char) : String :=
  String.ofList (if negative then '-' :: cs else cs)

/-- Decimal text without an exponent. -/
def plainText (x : Float) : String :=
  match parts x with
  | .nan => "NaN"
  | .infinite negative => signed negative "inf".toList
  | .zero negative => signed negative "0.0".toList
  | .finite negative b => signed negative b.shortest.positional

/-- Decimal text without an exponent, and without a point if the number is whole. -/
def bareText (x : Float) : String :=
  let cs := (plainText x).toList
  String.ofList (if ['.', '0'].isSuffixOf cs then cs.dropLast.dropLast else cs)

/-- Decimal text with an exponent for large and small numbers. A number that is not finite
    has none and is `null`. -/
def compactText (x : Float) : String :=
  match parts x with
  | .nan | .infinite _ => "null"
  | .zero negative => signed negative "0.0".toList
  | .finite negative b => signed negative b.shortest.compact

end ClientGen.Decimal
