import XPathData.Decimal.Arithmetic
import XPathData.Proofs.Decimal.Value

/-! # Exact arithmetic of decimal numbers

  A sum of two decimal numbers is exact as long as it fits, and so is a product with a whole
  number. It fits if its magnitude is at most that of some number with as many places.

  * `Decimal.exists_add` — exact sums
  * `Decimal.exists_mul` — exact products with whole numbers
  * `Decimal.value_eq_whole_add` — a number is its whole part and its fraction
-/

namespace XPathData

namespace Rounding

/-- A multiple of the divisor is not rounded. -/
theorem halfEvenInt_mul (n : Int) {d : Nat} (h : 0 < d) : halfEvenInt (n * d) d = n := by
  have habs : (n * d).natAbs = n.natAbs * d := by rw [Int.natAbs_mul, Int.natAbs_natCast]
  unfold halfEvenInt
  rw [habs, halfEven_mul _ h]
  by_cases hn : n < 0
  · rw [if_pos (Int.mul_neg_of_neg_of_pos hn (by omega))]
    omega
  · rw [if_neg (not_lt.2 (Int.mul_nonneg (by omega) (by omega)))]
    omega

end Rounding

namespace Decimal

variable {a b c : Decimal}

/-! ### Fitting -/

/-- Digits that fit keep all their places. -/
theorem fit_places {n : Int} {s : Nat} (hn : n.natAbs < coefficientLimit) (hs : s ≤ 28) :
    fit n (Nat.pow 10 s) s = some ⟨n, s, hn, hs⟩ := by
  have hround := Rounding.halfEvenInt_mul n (Nat.pow_pos (n := s) (by decide : 0 < 10))
  have hparts : ofParts? n s = some ⟨n, s, hn, hs⟩ := dif_pos ⟨hn, hs⟩
  cases s with
  | zero =>
    have hone : Rounding.halfEvenInt n (Nat.pow 10 0) = n := by simpa using hround
    rw [fit, hone, hparts]
  | succ s =>
    rw [fit]
    show (ofParts? (Rounding.halfEvenInt (n * (10 ^ (s + 1) : Nat)) (10 ^ (s + 1))) _).or _ = _
    rw [hround, hparts, Option.some_or]

/-- A number that is not greater than one with as many places fits. -/
theorem natAbs_lt_of_value {n : Int} {s : Nat} (hs : s ≤ c.scale)
    (h : |(n : ℚ) / 10 ^ s| ≤ |c.value|) : n.natAbs < coefficientLimit := by
  have hpow : (10 : ℚ) ^ s ≤ 10 ^ c.scale := pow_le_pow_right₀ (by norm_num) hs
  have hpos : (0 : ℚ) < 10 ^ s := by positivity
  -- With no more places than `c` has, a value that is not greater has no greater coefficient.
  have hle : |(n : ℚ)| ≤ |(c.coefficient : ℚ)| := by
    rw [value, abs_div, abs_div, abs_of_pos hpos, abs_of_pos (hpos.trans_le hpow),
      div_le_div_iff₀ hpos (hpos.trans_le hpow)] at h
    have hmul : |(c.coefficient : ℚ)| * 10 ^ s ≤ |(c.coefficient : ℚ)| * 10 ^ c.scale := by
      gcongr
    have hle := h.trans hmul
    exact le_of_mul_le_mul_right hle (hpos.trans_le hpow)
  have hint : |n| ≤ |c.coefficient| := by exact_mod_cast hle
  rw [Int.abs_eq_natAbs, Int.abs_eq_natAbs] at hint
  have hlt := c.natAbs_lt
  omega

/-! ### Sums and products -/

theorem value_atScale {s : Nat} (h : a.scale ≤ s) : (a.atScale s : ℚ) / 10 ^ s = a.value := by
  have hp : (10 : ℚ) ^ s = 10 ^ (s - a.scale) * 10 ^ a.scale := by
    rw [← pow_add, Nat.sub_add_cancel h]
  have hc : (a.atScale s : ℚ) = a.coefficient * 10 ^ (s - a.scale) := by
    have hpow : ((Nat.pow 10 (s - a.scale) : Nat) : ℚ) = 10 ^ (s - a.scale) := by norm_cast
    rw [← hpow]
    exact Int.cast_mul _ _
  rw [hc, hp, value]
  field_simp

/-- A sum that is not greater than a number with as many places is exact. -/
theorem exists_add (ha : a.scale ≤ c.scale) (hb : b.scale ≤ c.scale)
    (h : |a.value + b.value| ≤ |c.value|) :
    ∃ r, a.add? b = some r ∧ r.value = a.value + b.value ∧ r.scale ≤ c.scale := by
  have hs : max a.scale b.scale ≤ c.scale := max_le ha hb
  have hvalue : ((a.atScale (max a.scale b.scale) + b.atScale (max a.scale b.scale) : Int) : ℚ) /
      10 ^ max a.scale b.scale = a.value + b.value := by
    rw [Int.cast_add, add_div, value_atScale (le_max_left _ _), value_atScale (le_max_right _ _)]
  have hfits := natAbs_lt_of_value hs (hvalue ▸ h)
  exact ⟨_, fit_places hfits (hs.trans c.scale_le), hvalue, hs⟩

/-- So is a product with a whole number. -/
theorem exists_mul (ha : a.scale ≤ c.scale) (hb : b.scale = 0)
    (h : |a.value * b.value| ≤ |c.value|) :
    ∃ r, a.mul? b = some r ∧ r.value = a.value * b.value ∧ r.scale ≤ c.scale := by
  have hvalue : ((a.coefficient * b.coefficient : Int) : ℚ) / 10 ^ a.scale =
      a.value * b.value := by
    rw [value, value, hb, Int.cast_mul, pow_zero, div_one, div_mul_eq_mul_div]
  have hfits := natAbs_lt_of_value ha (hvalue ▸ h)
  have hplaces : a.scale ≤ 28 := ha.trans c.scale_le
  refine ⟨⟨_, a.scale, hfits, hplaces⟩, ?_, hvalue, ha⟩
  unfold mul?
  rw [hb, Nat.add_zero, min_eq_right hplaces]
  exact fit_places hfits hplaces

/-! ### Magnitude, whole part and fraction -/

theorem abs_coefficient_nonneg (a : Decimal) : 0 ≤ a.abs.coefficient := Int.natCast_nonneg _

@[simp] theorem value_abs (a : Decimal) : a.abs.value = |a.value| := by
  have hpos : (0 : ℚ) < 10 ^ a.scale := by positivity
  rw [value, value, abs_div, abs_of_pos hpos]
  show ((a.coefficient.natAbs : Int) : ℚ) / 10 ^ a.scale = _
  rw [← Int.abs_eq_natAbs, Int.cast_abs]

theorem natAbs_whole_abs (a : Decimal) : a.abs.whole.natAbs = a.whole.natAbs := by
  simp only [whole, abs, Int.natAbs_tdiv, Int.natAbs_natCast]

theorem value_eq_whole_add (a : Decimal) : a.value = a.whole + a.fraction.value := by
  have hsum : a.coefficient = a.whole * 10 ^ a.scale + a.fraction.coefficient := by
    have := Int.mul_tdiv_add_tmod a.coefficient (Nat.pow 10 a.scale : Nat)
    rw [Int.mul_comm] at this
    exact_mod_cast this.symm
  have hq : (a.coefficient : ℚ) = a.whole * 10 ^ a.scale + a.fraction.coefficient := by
    exact_mod_cast hsum
  have hpos : (10 : ℚ) ^ a.scale ≠ 0 := by positivity
  show (a.coefficient : ℚ) / 10 ^ a.scale = a.whole + a.fraction.coefficient / 10 ^ a.scale
  rw [hq]
  field_simp

end Decimal

end XPathData
