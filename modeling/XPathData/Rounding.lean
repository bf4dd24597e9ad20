/-! # Rounding quotients

  Quotients are rounded from their exact numerator and denominator. The rules
  differ only in where an exact half goes.
-/

namespace XPathData.Rounding

/-- The nearest natural number to `n / d`; a half goes to the even neighbour. -/
def halfEven (n d : Nat) : Nat :=
  let q := n / d
  let r := n % d
  if 2 * r < d then q
  else if d < 2 * r then q + 1
  else if q % 2 = 0 then q else q + 1

/-- The nearest natural number to `n / d`; a half goes up. -/
def halfUp (n d : Nat) : Nat :=
  if 2 * (n % d) < d then n / d else n / d + 1

/-- The nearest integer to `n / d`; a half goes to the even neighbour. -/
def halfEvenInt (n : Int) (d : Nat) : Int :=
  if n < 0 then -(halfEven n.natAbs d : Int) else halfEven n.natAbs d

/-! ### Laws -/

@[simp] theorem halfEven_one (n : Nat) : halfEven n 1 = n := by
  simp [halfEven, Nat.mod_one]

/-- An exact quotient is not changed. -/
theorem halfEven_mul {d : Nat} (k : Nat) (h : 0 < d) : halfEven (k * d) d = k := by
  simp [halfEven, Nat.mul_div_cancel k h, h]

/-- The rounded quotient is within half a unit of the quotient. -/
theorem halfEven_near (n : Nat) {d : Nat} (h : 0 < d) :
    2 * n ≤ 2 * (halfEven n d * d) + d ∧ 2 * (halfEven n d * d) ≤ 2 * n + d := by
  have hn := Nat.div_add_mod n d
  have hr := Nat.mod_lt n h
  have hq : n / d * d = d * (n / d) := Nat.mul_comm _ _
  have hq1 : (n / d + 1) * d = d * (n / d) + d := by rw [Nat.add_mul, hq]; omega
  simp only [halfEven]
  split
  · rw [hq]; omega
  · split
    · rw [hq1]; omega
    · split
      · rw [hq]; omega
      · rw [hq1]; omega

@[simp] theorem halfEvenInt_neg (n : Int) (d : Nat) :
    halfEvenInt (-n) d = -halfEvenInt n d := by
  rcases Int.lt_trichotomy n 0 with h | rfl | h
  · have h' : ¬ 0 < n := by omega
    simp [halfEvenInt, h, h']
  · simp [halfEvenInt, halfEven]
  · have h' : ¬ n < 0 := by omega
    simp [halfEvenInt, h, h']

end XPathData.Rounding
