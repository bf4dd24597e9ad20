import XPathData.Rounding

/-! # Binary floating point

  A binary floating-point number is a signed zero, a signed dyadic rational of
  bounded precision, a signed infinity or no number at all. Every operation forms
  its exact rational result and rounds it once, by `roundRatio`: to the nearest
  representable number, a half to the even significand, beyond the largest
  number to infinity.
-/

namespace XPathData

/-! ### Formats -/

/-- The precision and the range of exponents of a floating-point format. -/
structure BinaryFormat where
  /-- The number of bits of a significand. -/
  precision : Nat
  /-- The exponent of the smallest unit. -/
  minExponent : Int
  /-- The exponent of the unit of the largest numbers. -/
  maxExponent : Int
  deriving DecidableEq, Repr

namespace BinaryFormat

/-- The format of 64 bits. -/
def binary64 : BinaryFormat := ⟨53, -1074, 971⟩

/-- The format of 32 bits. -/
def binary32 : BinaryFormat := ⟨24, -149, 104⟩

end BinaryFormat

/-- A floating-point number; a finite one is `± significand * 2 ^ exponent`. -/
inductive Binary (f : BinaryFormat) where
  /-- Not a number. -/
  | nan
  /-- An infinity with its sign. -/
  | infinity (negative : Bool)
  /-- A finite number, zeros of both signs included. -/
  | finite (negative : Bool) (significand : Nat) (exponent : Int)
  deriving DecidableEq, Repr

/-- Numbers of 64 bits. -/
abbrev Double := Binary .binary64

/-- Numbers of 32 bits. -/
abbrev Single := Binary .binary32

namespace Binary

variable {f g : BinaryFormat}

instance : Inhabited (Binary f) := ⟨.nan⟩

/-! ### Powers of two -/

/-- The numerator of `m * 2 ^ e`. -/
def scaleUp (m : Nat) (e : Int) : Nat := m * Nat.pow 2 e.toNat

/-- The denominator of `m * 2 ^ e`. -/
def scaleDown (e : Int) : Nat := Nat.pow 2 (-e).toNat

/-- The exponent of the greatest power of two that is at most `n / d`. -/
def floorLog (n d : Nat) : Int :=
  let l : Int := n.log2 - d.log2
  if scaleUp d l ≤ n * scaleDown l then l else l - 1

/-! ### Rounding -/

/-- The exponent of the last place of a number of the size of `n / d`. -/
def unitExponent (f : BinaryFormat) (n d : Nat) : Int :=
  max f.minExponent (floorLog n d - (f.precision - 1 : Nat))

/-- A significand that was rounded up to one bit more moves to the next exponent;
    an exponent beyond the range becomes infinity. -/
def pack (f : BinaryFormat) (negative : Bool) (m : Nat) (e : Int) : Binary f :=
  let carried : Nat × Int := if m < Nat.pow 2 f.precision then (m, e) else (m / 2, e + 1)
  if f.maxExponent < carried.2 then .infinity negative
  else .finite negative carried.1 carried.2

/-- The number nearest to `n / d`, with the given sign. -/
def roundRatio (f : BinaryFormat) (negative : Bool) (n d : Nat) : Binary f :=
  if n = 0 then .finite negative 0 f.minExponent
  else
    let e := unitExponent f n d
    pack f negative (Rounding.halfEven (n * scaleDown e) (scaleUp d e)) e

/-- The number nearest to `± m * 2 ^ e`. -/
def roundScaled (f : BinaryFormat) (negative : Bool) (m : Nat) (e : Int) : Binary f :=
  roundRatio f negative (scaleUp m e) (scaleDown e)

/-! ### Constants and tests -/

/-- Positive zero. -/
def zero : Binary f := .finite false 0 f.minExponent

/-- The number nearest to an integer. -/
def ofInt (f : BinaryFormat) (n : Int) : Binary f := roundRatio f (n < 0) n.natAbs 1

/-- Not a number. -/
def isNaN : Binary f → Bool
  | nan => true
  | _ => false

/-- Neither infinite nor NaN. -/
def isFinite : Binary f → Bool
  | finite .. => true
  | _ => false

/-- One of the two infinities. -/
def isInfinite : Binary f → Bool
  | infinity _ => true
  | _ => false

/-- One of the two zeros. -/
def isZero : Binary f → Bool
  | finite _ m _ => m == 0
  | _ => false

/-- Carries the sign bit of a negative number. -/
def isNegative : Binary f → Bool
  | nan => false
  | infinity s => s
  | finite s _ _ => s

/-- The opposite number. -/
def neg : Binary f → Binary f
  | nan => nan
  | infinity s => infinity !s
  | finite s m e => finite (!s) m e

@[simp] theorem neg_neg (x : Binary f) : x.neg.neg = x := by cases x <;> simp [neg]
@[simp] theorem isNaN_neg (x : Binary f) : x.neg.isNaN = x.isNaN := by cases x <;> rfl
@[simp] theorem isZero_neg (x : Binary f) : x.neg.isZero = x.isZero := by cases x <;> rfl

/-! ### Order -/

/-- A signed significand at the exponent `e`, which is at most its own. -/
def alignedTo (e : Int) (negative : Bool) (m : Nat) (exponent : Int) : Int :=
  let n : Int := scaleUp m (exponent - e)
  if negative then -n else n

/-- Compares two numbers by value; none if one of them is NaN. -/
def compare? : Binary f → Binary f → Option Ordering
  | nan, _ | _, nan => none
  | infinity s, infinity t => some (compare t s)
  | infinity s, finite .. => some (if s then .lt else .gt)
  | finite .., infinity t => some (if t then .gt else .lt)
  | finite s m e, finite t n k =>
    some (compare (alignedTo (min e k) s m e) (alignedTo (min e k) t n k))

/-- Less by value. -/
def lt (a b : Binary f) : Bool := a.compare? b == some .lt

/-- At most by value. -/
def le (a b : Binary f) : Bool := a.compare? b == some .lt || a.compare? b == some .eq

/-- Equal by value; NaN equals nothing. -/
def same (a b : Binary f) : Bool := a.compare? b == some .eq

/-! ### Change of format -/

/-- The nearest number of another format. -/
def convert (g : BinaryFormat) : Binary f → Binary g
  | nan => nan
  | infinity s => infinity s
  | finite s m e => roundScaled g s m e

end Binary

end XPathData
