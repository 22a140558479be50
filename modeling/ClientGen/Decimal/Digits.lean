/-! # Shortest decimal digits

The decimal digits of a binary floating-point number: the fewest that read back as the
same number, and of those the nearest to it. All arithmetic is exact.
-/

namespace ClientGen.Decimal

/-- A decimal number `0.d₁d₂… × 10 ^ point`, its digits without leading or trailing zeros. -/
structure Digits where
  digits : List Nat
  point : Int
  deriving Repr, DecidableEq

/-- A positive number `mantissa * 2 ^ exponent`. `isPower` says that the number below it is
    closer than the one above. -/
structure Binary where
  mantissa : Nat
  exponent : Int
  isPower : Bool
  deriving Repr, DecidableEq

/-- Digits of a positive natural number, most significant first. -/
def natDigits (n : Nat) : List Nat :=
  (Nat.toDigits 10 n).map fun c => c.toNat - '0'.toNat

/-- Without the zeros at the end. -/
def dropZeros (digits : List Nat) : List Nat :=
  (digits.reverse.dropWhile (· == 0)).reverse

/-- The number as a fraction of natural numbers. -/
def Binary.fraction (b : Binary) : Nat × Nat :=
  if 0 ≤ b.exponent then (b.mantissa * Nat.pow 2 b.exponent.toNat, 1)
  else (b.mantissa, Nat.pow 2 (-b.exponent).toNat)

/-- Twice the distances to the ends of the interval that reads back as the number, in units
    of a quarter of the last place: below, then above. -/
def Binary.halfGaps (b : Binary) : Nat × Nat :=
  if b.isPower then (1, 2) else (2, 2)

/-- Whether `num / den` lies in the interval that reads back as `b`. The ends belong to it
    when the mantissa is even. -/
def Binary.holds (b : Binary) (num den : Nat) : Bool :=
  let (below, above) := b.halfGaps
  let quarter : Nat × Nat :=
    if 2 ≤ b.exponent then (Nat.pow 2 (b.exponent - 2).toNat, 1)
    else (1, Nat.pow 2 (2 - b.exponent).toNat)
  let low := (4 * b.mantissa - below) * quarter.1 * den
  let high := (4 * b.mantissa + above) * quarter.1 * den
  let x := num * quarter.2
  if b.mantissa % 2 == 0 then low ≤ x && x ≤ high else low < x && x < high

/-- Number of decimal digits before the point of `num / den`, zero or less for a number
    below one: the least `k` with `num / den < 10 ^ k`. -/
def magnitude (num den : Nat) : Int :=
  if den ≤ num then (natDigits (num / den)).length
  else
    let zeros := (natDigits ((den - 1) / num)).length
    if num * Nat.pow 10 zeros < den then -zeros else 1 - zeros

/-- Round-trip digits on the grid of `10 ^ step`, if one of the two grid points next to the
    number reads back. -/
def Binary.onGrid? (b : Binary) (step : Int) : Option Nat :=
  let (num, den) := b.fraction
  let (num, den) :=
    if 0 ≤ step then (num, den * Nat.pow 10 step.toNat)
    else (num * Nat.pow 10 (-step).toNat, den)
  let low := num / den
  let fits (k : Nat) : Bool :=
    if 0 ≤ step then b.holds (k * Nat.pow 10 step.toNat) 1
    else b.holds k (Nat.pow 10 (-step).toNat)
  let lowFits := 0 < low && fits low
  let highFits := fits (low + 1)
  let twice := 2 * (num % den)
  match lowFits, highFits with
  | true, true =>
    if twice < den || (twice == den && low % 2 == 0) then some low else some (low + 1)
  | true, false => some low
  | false, true => some (low + 1)
  | false, false => none

/-- The first grid, coarsest first, with a point that reads back. -/
def Binary.searchGrid (b : Binary) (size : Int) : Nat → Nat → Option (Nat × Int)
  | 0, _ => none
  | fuel + 1, count =>
    match b.onGrid? (size - count) with
    | some k => some (k, size - count)
    | none => b.searchGrid size fuel (count + 1)

/-- Shortest digits of a positive number. Seventeen digits always suffice. -/
def Binary.shortest (b : Binary) : Digits :=
  let (num, den) := b.fraction
  match b.searchGrid (magnitude num den) 17 1 with
  | some (k, step) =>
    let digits := natDigits k
    ⟨dropZeros digits, step + digits.length⟩
  | none => ⟨[], 0⟩

/-- A floating-point number taken apart. -/
inductive Parts where
  | nan
  | infinite (negative : Bool)
  | zero (negative : Bool)
  | finite (negative : Bool) (magnitude : Binary)

/-- The bit of a double that holds its sign, and the mantissa's leading bit, which is not stored. -/
def signBit : Nat := 0x8000000000000000

def hiddenBit : Nat := 0x10000000000000

/-- The parts of a double, from its sign, exponent and fraction bits. -/
def parts (x : Float) : Parts :=
  let bits : Nat := x.toBits.toNat
  let negative := signBit ≤ bits
  let exponent : Nat := bits / hiddenBit % 2048
  let fraction : Nat := bits % hiddenBit
  if exponent == 2047 then
    if fraction == 0 then .infinite negative else .nan
  else if exponent == 0 then
    if fraction == 0 then .zero negative else .finite negative ⟨fraction, -1074, false⟩
  else
    .finite negative ⟨hiddenBit + fraction, Int.ofNat exponent - 1075, fraction == 0 && 1 < exponent⟩

end ClientGen.Decimal
