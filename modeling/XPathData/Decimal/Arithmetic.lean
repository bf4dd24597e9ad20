import XPathData.Decimal.Basic

/-! # Decimal arithmetic

  Sum, difference, product and quotient are the exact results fitted into 96 bits
  and 28 places. Each fails only when the result does not fit without decimal places,
  the last one also for a zero divisor.
-/

namespace XPathData.Decimal

/-! ### Sign -/

/-- The opposite number. -/
def neg (a : Decimal) : Decimal :=
  ⟨-a.coefficient, a.scale, by rw [Int.natAbs_neg]; exact a.natAbs_lt, a.scale_le⟩

/-- The magnitude. -/
def abs (a : Decimal) : Decimal :=
  ⟨a.coefficient.natAbs, a.scale, a.natAbs_lt, a.scale_le⟩

@[simp] theorem neg_coefficient (a : Decimal) : a.neg.coefficient = -a.coefficient := rfl
@[simp] theorem neg_scale (a : Decimal) : a.neg.scale = a.scale := rfl
@[simp] theorem neg_neg (a : Decimal) : a.neg.neg = a := by simp [neg]

/-! ### Whole part -/

/-- The whole part, toward zero. -/
def whole (a : Decimal) : Int := a.coefficient.tdiv (Nat.pow 10 a.scale)

theorem natAbs_whole_le (a : Decimal) : a.whole.natAbs ≤ a.coefficient.natAbs := by
  simp only [whole, Int.natAbs_tdiv]
  exact Nat.div_le_self _ _

/-- What is left of the number without its whole part, with the same sign. -/
def fraction (a : Decimal) : Decimal :=
  ⟨a.coefficient.tmod (Nat.pow 10 a.scale), a.scale, by
    rw [Int.natAbs_tmod]
    exact Nat.lt_of_le_of_lt (Nat.mod_le _ _) a.natAbs_lt, a.scale_le⟩

/-! ### The four operations -/

/-- The coefficient at `s` places, where `s` is at least the scale. -/
def atScale (a : Decimal) (s : Nat) : Int := a.coefficient * Nat.pow 10 (s - a.scale)

/-- The sum. -/
def add? (a b : Decimal) : Option Decimal :=
  let s := max a.scale b.scale
  fit (a.atScale s + b.atScale s) (Nat.pow 10 s) s

/-- The difference. -/
def sub? (a b : Decimal) : Option Decimal := a.add? b.neg

/-- The product. -/
def mul? (a b : Decimal) : Option Decimal :=
  fit (a.coefficient * b.coefficient) (Nat.pow 10 (a.scale + b.scale))
    (min 28 (a.scale + b.scale))

/-- The quotient, without zeros at the end of its places; none for a zero divisor. -/
def div? (a b : Decimal) : Option Decimal :=
  if b.isZero then none
  else
    (fit (a.coefficient * Nat.pow 10 b.scale * b.sign)
      (b.coefficient.natAbs * Nat.pow 10 a.scale) 28).map normalize

end XPathData.Decimal
