import XPathData.Bounded
import XPathData.Rounding

/-! # Decimal numbers

  A decimal number is a coefficient of at most 96 bits with up to 28 decimal
  places. Results are formed exactly and then fitted into this shape: `fit` gives
  the most decimal places for which the rounded coefficient still has 96 bits.
-/

namespace XPathData

/-- The first number of more than 96 bits. -/
abbrev coefficientLimit : Nat := 0x1000000000000000000000000

/-- The number `coefficient / 10 ^ scale`. -/
structure Decimal where
  /-- The signed digits. -/
  coefficient : Int
  /-- The number of decimal places. -/
  scale : Nat
  natAbs_lt : coefficient.natAbs < coefficientLimit
  scale_le : scale ≤ 28
  deriving DecidableEq, Repr

namespace Decimal

/-! ### Construction -/

/-- A whole number has few enough places. -/
theorem no_places_le : 0 ≤ 28 := Nat.zero_le 28

/-- The number with these digits and places, if they fit. -/
def ofParts? (coefficient : Int) (scale : Nat) : Option Decimal :=
  if h : coefficient.natAbs < coefficientLimit ∧ scale ≤ 28 then some ⟨coefficient, scale, h.1, h.2⟩
  else none

/-- A whole number, if it has at most 96 bits. -/
def ofInt? (n : Int) : Option Decimal := ofParts? n 0

/-- The number zero. -/
def zero : Decimal := ⟨0, 0, by decide, no_places_le⟩

instance : Inhabited Decimal := ⟨zero⟩

/-- A whole number of 64 bits, signed or not. -/
def ofWord {low high : Int} (b : Bounded low high)
    (h : -0x10000000000000000 ≤ low ∧ high ≤ 0x10000000000000000) : Decimal :=
  ⟨b.val, 0, by have := b.low_le; have := b.le_high; simp only [coefficientLimit]; omega,
    no_places_le⟩

/-- A signed number of 64 bits. -/
def ofSigned64 (b : Signed64) : Decimal := ofWord b (by decide)

/-- A signed number of 32 bits. -/
def ofSigned32 (b : Signed32) : Decimal := ofWord b (by decide)

/-! ### Order -/

/-- Compares the two numbers, whatever their decimal places. -/
def compare (a b : Decimal) : Ordering :=
  Ord.compare (a.coefficient * Nat.pow 10 b.scale) (b.coefficient * Nat.pow 10 a.scale)

/-- The two numbers are equal. -/
def same (a b : Decimal) : Bool := a.compare b == .eq

/-- The number is zero. -/
def isZero (a : Decimal) : Bool := a.coefficient == 0

/-- The sign of the number. -/
def sign (a : Decimal) : Int := a.coefficient.sign

/-! ### Normal form -/

/-- Takes zeros off the end of `c` while there are decimal places left. -/
def stripZeros (c : Int) : Nat → Int × Nat
  | 0 => (c, 0)
  | s + 1 => if c % 10 = 0 then stripZeros (c / 10) s else (c, s + 1)

theorem natAbs_stripZeros_le (c : Int) (s : Nat) :
    (stripZeros c s).1.natAbs ≤ c.natAbs := by
  induction s generalizing c with
  | zero => simp [stripZeros]
  | succ s ih =>
    simp only [stripZeros]
    split
    · have := ih (c / 10); omega
    · simp

theorem stripZeros_scale_le (c : Int) (s : Nat) : (stripZeros c s).2 ≤ s := by
  induction s generalizing c with
  | zero => simp [stripZeros]
  | succ s ih =>
    simp only [stripZeros]
    split
    · have := ih (c / 10); omega
    · simp

/-- The same number without zeros at the end of its decimal places. -/
def normalize (a : Decimal) : Decimal :=
  ⟨(stripZeros a.coefficient a.scale).1, (stripZeros a.coefficient a.scale).2,
    Nat.lt_of_le_of_lt (natAbs_stripZeros_le _ _) a.natAbs_lt,
    Nat.le_trans (stripZeros_scale_le _ _) a.scale_le⟩

/-! ### Fitting -/

/-- The quotient `n / d` with the most places, at most `s`, for which the rounded
    coefficient has 96 bits; a half goes to the even neighbour. -/
def fit (n : Int) (d : Nat) : Nat → Option Decimal
  | 0 => ofParts? (Rounding.halfEvenInt n d) 0
  | s + 1 =>
    (ofParts? (Rounding.halfEvenInt (n * Nat.pow 10 (s + 1)) d) (s + 1)).or (fit n d s)

end Decimal

end XPathData
