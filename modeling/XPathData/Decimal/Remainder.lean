import XPathData.Decimal.Arithmetic

/-! # Remainders of decimal numbers

  The two numbers are brought to the same number of places, and their digits are divided.
  A divisor of at most 64 bits leaves the exact remainder. For a longer one the division
  goes word by word, with words of 32 bits and a divisor whose first bit is set. A word of
  the quotient is estimated from the first words of the rest and of the divisor; an
  estimate that is too long for a word loses its carry.
-/

namespace XPathData.Decimal

/-! ### Division by words -/

/-- The rest of a division by `d` when the next word `w` is joined to the rest so far. Where
    the first words of the rest and of `d` are the same, the rest goes on without it. -/
def nextRest (d rest w : Nat) : Nat :=
  let joined := rest * 0x100000000 + w
  if joined / coefficientLimit = d / 0x10000000000000000 then joined % coefficientLimit % d
  else joined % d

theorem nextRest_lt {d : Nat} (h : 0 < d) (rest w : Nat) : nextRest d rest w < d := by
  simp only [nextRest]
  split <;> exact Nat.mod_lt _ h

/-- What a division of `n` by `d` leaves, word by word, where `d` has 96 bits. -/
def restByWords (d n : Nat) : Nat :=
  if h : n < 0x800000000000000000000000 then n
  else nextRest d (restByWords d (n / 0x100000000)) (n % 0x100000000)
termination_by n
decreasing_by exact Nat.div_lt_self (by omega) (by decide)

theorem restByWords_lt {d : Nat} (h : 0x800000000000000000000000 ≤ d) (n : Nat) :
    restByWords d n < d := by
  rw [restByWords]
  split
  · omega
  · exact nextRest_lt (by omega) _ _

/-- What a division of digits leaves, where the divisor has at most 96 bits. -/
def restOf (n d : Nat) : Nat :=
  if d < 0x10000000000000000 then n % d
  else
    let shift := 95 - d.log2
    restByWords (d <<< shift) (n <<< shift) >>> shift

theorem restOf_eq_mod {n d : Nat} (h : d < 0x10000000000000000) : restOf n d = n % d := if_pos h

/-! ### The operation -/

/-- The remainder of the division toward zero; none for a zero divisor. -/
def rem? (a b : Decimal) : Option Decimal :=
  if b.isZero then none
  else if a.abs.compare b.abs == .lt then some a
  else
    let s := max a.scale b.scale
    ofParts? (a.sign * restOf (a.atScale s).natAbs (b.atScale s).natAbs) s

end XPathData.Decimal
