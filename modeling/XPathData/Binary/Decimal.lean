import XPathData.Binary.Arithmetic
import XPathData.Decimal.Basic

/-! # Between decimal and floating-point numbers

  A decimal number becomes a floating-point one in floating-point steps: the whole
  part plus the quotient of the fraction, rounded to as many places as the decimal
  has. The other way the binary exponent is traded for a decimal one step by step,
  within 96 bits, and the digits that the format does not guarantee are rounded away.
-/

namespace XPathData

/-! ### From decimal -/

namespace Decimal

/-- The floating-point number for `n / 10 ^ places`, without sign. -/
def magnitudeToDouble (n places : Nat) : Double :=
  let unit := Nat.pow 10 places
  let wholePart := Binary.ofInt .binary64 (n / unit)
  let fraction := (Binary.ofInt .binary64 (n % unit)).div (Binary.ofInt .binary64 unit)
  if fraction.isZero then wholePart
  else
    let power := Binary.powerFrom (Binary.ofInt .binary64 1) (Binary.ofInt .binary64 10) places
    -- Rounding to the places of the decimal takes back what the two steps before have lost.
    (((wholePart.add fraction).mul power).roundHalfAway).div power

/-- The floating-point number of 64 bits for a decimal one. -/
def toDouble (a : Decimal) : Double :=
  let x := magnitudeToDouble a.coefficient.natAbs a.scale
  if a.coefficient < 0 then x.neg else x

/-- The floating-point number of 32 bits for a decimal one, by way of 64 bits. -/
def toSingle (a : Decimal) : Single := a.toDouble.convert .binary32

end Decimal

/-! ### To decimal -/

namespace Binary

variable {f : BinaryFormat}

/-- The bits of a coefficient that a format guarantees; decimal places beyond them
    are given up. -/
def guaranteedBits (f : BinaryFormat) : Nat := if f.precision ≤ 24 then 24 else 52

/-- Halves a power of five away: `steps` times the coefficient is halved if it is
    even or full, and multiplied by five otherwise; each halving raises the decimal
    exponent. -/
def multiplyFives : Nat → Nat → Int → Nat × Int
  | 0, m, k => (m, k)
  | steps + 1, m, k =>
    if m % 2 = 0 then multiplyFives steps (m / 2) (k + 1)
    else if 5 * m < coefficientLimit then multiplyFives steps (5 * m) k
    else multiplyFives steps (m / 2) (k + 1)

/-- Divides a power of five away: the coefficient is doubled while it has room, at
    the cost of the decimal exponent, and divided by five otherwise. Fails when the
    rest of the exponent cannot be made up. -/
def divideFives : Nat → Nat → Int → Option (Nat × Int)
  | 0, m, k => some (m, k)
  | steps + 1, m, k =>
    if m < coefficientLimit / 2 then divideFives steps (2 * m) (k - 1)
    else if ((steps + 1 : Nat) : Int) < 2 * k then none
    else divideFives steps (m / 5) k

/-- Multiplies by ten until the decimal exponent `k` is used up. -/
def multiplyTens (m : Nat) : Nat → Option Nat
  | 0 => some m
  | k + 1 => if 10 * m < coefficientLimit then multiplyTens (10 * m) k else none

/-- One digit less, rounded; a five rounds up. -/
def dropDigit (m : Nat) : Nat := m / 10 + if 5 ≤ m % 10 then 1 else 0

/-- Drops digits until at most 28 places are left; a coefficient that vanishes is
    zero without places. -/
def limitPlaces (m : Nat) : Nat → Nat × Nat
  | 0 => (m, 28)
  | excess + 1 => if m / 10 = 0 then (0, 0) else limitPlaces (dropDigit m) excess

/-- Drops places while the coefficient has more bits than the format guarantees. -/
def limitDigits (limit : Nat) (m : Nat) : Nat → Nat × Nat
  | 0 => (m, 0)
  | places + 1 =>
    if limit ≤ m then limitDigits limit (dropDigit m) places else (m, places + 1)

/-- The coefficient and places of `m * 2 ^ e`, with the coefficient kept below `limit`
    where places can be given up for it. -/
def toParts? (limit m : Nat) (e : Int) : Option (Nat × Nat) := do
  let (m, k) ← if e < 0 then some (multiplyFives (-e).toNat m e) else divideFives e.toNat m e
  -- The number is `m * 10 ^ k` now, as far as the coefficient had room.
  let m ← multiplyTens m k.toNat
  let (m, places) := if (-k).toNat ≤ 28 then (m, (-k).toNat) else limitPlaces m ((-k).toNat - 28)
  -- At most 28 places are left, and some of them are beyond the format.
  return limitDigits limit m places

/-- The decimal number for a floating-point one; none for NaN, the infinities and
    numbers too large. -/
def toDecimal? (x : Binary f) : Option Decimal :=
  match x with
  | finite s m e =>
    if m = 0 then some Decimal.zero
    else (toParts? (Nat.pow 2 (guaranteedBits f)) m e).bind fun (c, places) =>
      (Decimal.ofParts? (if s then -(c : Int) else c) places).map Decimal.normalize
  | _ => none

end Binary

end XPathData
