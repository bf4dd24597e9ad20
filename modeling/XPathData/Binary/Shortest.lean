import XPathData.Binary.Basic

/-! # Shortest decimals

  Every decimal between two neighbouring halves reads back as the same
  floating-point number. `shortest` gives the one with the fewest digits and, of
  those, the nearest: for one, two, three, … digits it tests the two neighbours of
  the exact value on that decimal grid, and the first grid with a hit wins. All
  tests compare natural numbers.
-/

namespace XPathData.Binary

/-! ### Decimal size -/

/-- The number of decimal digits; none for zero. -/
def decimalLength (n : Nat) : Nat :=
  if h : n = 0 then 0 else decimalLength (n / 10) + 1
termination_by n
decreasing_by omega

/-- The exponent of the greatest power of ten that is at most `n / d`. -/
def floorLogTen (n d : Nat) : Int :=
  if d ≤ n then (decimalLength (n / d) : Int) - 1 else -(decimalLength ((d - 1) / n) : Int)

/-! ### The rounding interval -/

/-- The halves around `m * 2 ^ e`, in quarters of the last place. Below a power of
    two the numbers lie twice as close. -/
def halves (f : BinaryFormat) (m : Nat) (e : Int) : Nat × Nat :=
  (if m = Nat.pow 2 (f.precision - 1) ∧ f.minExponent < e then 4 * m - 1 else 4 * m - 2, 4 * m + 2)

/-- A decimal grid beside the binary one: the decimal `c * 10 ^ k` has the size
    `c * decimal`, and `x` quarters of the last place have the size `x * quarter`. -/
structure Grid where
  /-- The size of one step of the decimal grid. -/
  decimal : Nat
  /-- The size of a quarter of the last binary place. -/
  quarter : Nat

/-- The grid of the multiples of `10 ^ k` beside the places `2 ^ e`. -/
def Grid.ofExponents (k e : Int) : Grid :=
  ⟨Nat.pow 10 k.toNat * Nat.pow 2 (2 - e).toNat, Nat.pow 2 (e - 2).toNat * Nat.pow 10 (-k).toNat⟩

/-- The decimal with coefficient `c` reads back as `m * 2 ^ e`; the halves
    themselves do if `m` is even. -/
def Grid.holds (g : Grid) (f : BinaryFormat) (m : Nat) (e : Int) (c : Nat) : Bool :=
  let (low, high) := halves f m e
  let x := c * g.decimal
  if m % 2 = 0 then low * g.quarter ≤ x && x ≤ high * g.quarter
  else low * g.quarter < x && x < high * g.quarter

/-- Of the two neighbours of the exact value, the nearer one that reads back; from
    an exact middle the upper one. -/
def Grid.nearest? (g : Grid) (f : BinaryFormat) (m : Nat) (e : Int) : Option Nat :=
  -- The exact value, and the last point of the grid that is not above it.
  let v := 4 * m * g.quarter
  let c := v / g.decimal
  match g.holds f m e c, g.holds f m e (c + 1) with
  | true, true => some (if v - c * g.decimal < (c + 1) * g.decimal - v then c else c + 1)
  | true, false => some c
  | false, true => some (c + 1)
  | false, false => none

/-! ### The search -/

/-- Tries grids of more and more digits, from the one of `10 ^ k`. -/
def searchFrom (f : BinaryFormat) (m : Nat) (e : Int) : Nat → Int → Nat × Int
  | 0, k => (4 * m * (Grid.ofExponents k e).quarter / (Grid.ofExponents k e).decimal, k)
  | n + 1, k =>
    match (Grid.ofExponents k e).nearest? f m e with
    | some c => (c, k)
    | none => searchFrom f m e n (k - 1)

/-- Takes the zeros off the end of a coefficient. -/
def dropZeros (c : Nat) (k : Int) : Nat × Int :=
  if h : c ≠ 0 ∧ c % 10 = 0 then dropZeros (c / 10) (k + 1) else (c, k)
termination_by c
decreasing_by omega

/-- The coefficient and exponent of the shortest decimal that reads back as the
    positive number `m * 2 ^ e`. -/
def shortest (f : BinaryFormat) (m : Nat) (e : Int) : Nat × Int :=
  let (c, k) := searchFrom f m e f.precision (floorLogTen (scaleUp m e) (scaleDown e))
  dropZeros c k

end XPathData.Binary
