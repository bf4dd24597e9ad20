import XPathData.Proofs.Binary.Order
import XPathData.Proofs.Decimal.Value

/-! # Decimal numbers as doubles

  A decimal number becomes a double in steps that look at its coefficient and its scale, so that
  two ways to write one number may give two doubles. A whole number gives the double nearest to
  it, in whatever way it is written.

  * `Decimal.toDouble_of_whole` — the double of a whole number
  * `Decimal.toDouble_eq_of_whole` — two ways to write a whole number give one double
  * `Decimal.isNaN_toDouble` — every decimal number gives a number
-/

namespace XPathData

namespace Binary

variable {f : BinaryFormat}

/-! ### Sign -/

@[simp] theorem neg_pack (negative : Bool) (m : Nat) (e : Int) :
    (pack f negative m e).neg = pack f (!negative) m e := by
  unfold pack
  dsimp only
  split
  · split <;> rfl
  · split <;> rfl

@[simp] theorem neg_roundRatio (negative : Bool) (n d : Nat) :
    (roundRatio f negative n d).neg = roundRatio f (!negative) n d := by
  unfold roundRatio
  split
  · rfl
  · exact neg_pack _ _ _

/-- An integer is rounded by its magnitude. -/
theorem ofInt_eq_neg {n : Int} (h : n < 0) : ofInt f n = (ofInt f n.natAbs).neg := by
  have hnat : ¬ (n.natAbs : Int) < 0 := by omega
  unfold ofInt
  rw [neg_roundRatio, Int.natAbs_natCast, decide_eq_true h, decide_eq_false hnat]
  rfl

end Binary

namespace Decimal

variable {a b : Decimal}

/-! ### Whole numbers -/

/-- The quotient of zero and a power of ten is zero, as far as places go. -/
theorem zero_div_isZero {places : Nat} (h : places ≤ 28) :
    ((Binary.ofInt .binary64 0).div
      (Binary.ofInt .binary64 (Nat.pow 10 places : Nat))).isZero = true := by
  have hall : ∀ i : Fin 29, ((Binary.ofInt .binary64 0).div
      (Binary.ofInt .binary64 (Nat.pow 10 i : Nat))).isZero = true := by decide +kernel
  exact hall ⟨places, by omega⟩

/-- A magnitude without a fraction is rounded as an integer. -/
theorem magnitudeToDouble_mul (w : Nat) {places : Nat} (h : places ≤ 28) :
    magnitudeToDouble (w * Nat.pow 10 places) places = Binary.ofInt .binary64 w := by
  have hpos : ((Nat.pow 10 places : Nat) : Int) ≠ 0 := by
    have : 0 < Nat.pow 10 places := Nat.pow_pos (by decide)
    omega
  unfold magnitudeToDouble
  dsimp only
  rw [Nat.cast_mul, Int.mul_ediv_cancel _ hpos, Int.mul_emod_left, if_pos (zero_div_isZero h)]

/-- The double of a whole number is the one nearest to it. -/
theorem toDouble_of_whole {w : Int} (h : a.coefficient = w * (Nat.pow 10 a.scale : Nat)) :
    a.toDouble = Binary.ofInt .binary64 w := by
  have hpos : 0 < Nat.pow 10 a.scale := Nat.pow_pos (by decide)
  have habs : a.coefficient.natAbs = w.natAbs * Nat.pow 10 a.scale := by
    rw [h, Int.natAbs_mul, Int.natAbs_natCast]
  unfold toDouble
  dsimp only
  rw [habs, magnitudeToDouble_mul _ a.scale_le]
  by_cases hw : w < 0
  · have hneg : a.coefficient < 0 := by
      rw [h]
      exact Int.mul_neg_of_neg_of_pos hw (by omega)
    rw [if_pos hneg, Binary.ofInt_eq_neg hw]
  · have hnonneg : ¬ a.coefficient < 0 := by
      rw [h, not_lt]
      exact Int.mul_nonneg (by omega) (by omega)
    rw [if_neg hnonneg, Int.natAbs_of_nonneg (by omega)]

theorem coefficient_of_value {w : Int} (h : a.value = w) :
    a.coefficient = w * (Nat.pow 10 a.scale : Nat) := by
  have hpos : (10 : ℚ) ^ a.scale ≠ 0 := by positivity
  rw [value, div_eq_iff hpos] at h
  have hnat : ((Nat.pow 10 a.scale : Nat) : ℚ) = 10 ^ a.scale := by norm_cast
  rw [← hnat] at h
  exact_mod_cast h

/-- Two ways to write a whole number give one double. -/
theorem toDouble_eq_of_whole {w : Int} (ha : a.value = w) (hb : b.value = w) :
    a.toDouble = b.toDouble := by
  rw [toDouble_of_whole (coefficient_of_value ha), toDouble_of_whole (coefficient_of_value hb)]

/-! ### Numbers throughout -/

/-- The powers of ten that the steps multiply and divide by are positive. -/
theorem isPositive_powers {places : Nat} (h : places ≤ 28) :
    (Binary.ofInt .binary64 (Nat.pow 10 places : Nat)).IsPositive ∧
      (Binary.powerFrom (Binary.ofInt .binary64 1) (Binary.ofInt .binary64 10)
        places).IsPositive := by
  have hall : ∀ i : Fin 29, (Binary.ofInt .binary64 (Nat.pow 10 i : Nat)).IsPositive ∧
      (Binary.powerFrom (Binary.ofInt .binary64 1) (Binary.ofInt .binary64 10) i).IsPositive := by
    decide +kernel
  exact hall ⟨places, by omega⟩

/-- No step on the way to a double leaves the magnitudes. -/
theorem isMagnitude_magnitudeToDouble (n : Nat) {places : Nat} (h : places ≤ 28) :
    (magnitudeToDouble n places).IsMagnitude := by
  obtain ⟨hunit, hpower⟩ := isPositive_powers h
  have hwhole : (Binary.ofInt .binary64 (n / (Nat.pow 10 places : Nat))).IsMagnitude :=
    Binary.isMagnitude_ofInt (by positivity)
  have hrest : (0 : Int) ≤ n % (Nat.pow 10 places : Nat) := by exact_mod_cast Nat.zero_le _
  have hfraction := (Binary.isMagnitude_ofInt (f := .binary64) hrest).div hunit
  unfold magnitudeToDouble
  dsimp only
  split
  · exact hwhole
  · exact ((hwhole.add hfraction).mul hpower).roundHalfAway.div hpower

@[simp] theorem isNaN_toDouble (a : Decimal) : a.toDouble.isNaN = false := by
  have hmagnitude := isMagnitude_magnitudeToDouble a.coefficient.natAbs a.scale_le
  unfold toDouble
  dsimp only
  split
  · rw [Binary.isNaN_neg]
    exact hmagnitude.1
  · exact hmagnitude.1

end Decimal

end XPathData
