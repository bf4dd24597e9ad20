import Mathlib.Algebra.Order.Field.Rat
import Mathlib.Algebra.Order.Field.Power
import Mathlib.Data.Rat.Cast.Order
import Mathlib.Order.Compare
import Mathlib.Tactic.FieldSimp
import Mathlib.Tactic.Linarith
import Mathlib.Tactic.Positivity
import Mathlib.Tactic.Ring
import XPathData.Atomic.Number

/-! # The value of a decimal number

  One rational number is written with several coefficients and scales. Comparison goes by the
  rational number alone, and the normal form is the one way to write it without a zero at the
  end of the decimal places.

  * `Decimal.value` — the rational number
  * `Decimal.compare_eq_value` — the order is that of the values
  * `Decimal.normalize_eq_iff` — normal forms are equal exactly when the values are
-/

namespace XPathData.Decimal

variable {a b : Decimal}

/-- The rational number that a decimal number stands for. -/
def value (a : Decimal) : ℚ := a.coefficient / 10 ^ a.scale

/-! ### Order -/

/-- Fractions of powers of ten are ordered as their cross products. -/
theorem value_lt_iff :
    a.value < b.value ↔
      a.coefficient * (Nat.pow 10 b.scale : Nat) < b.coefficient * (Nat.pow 10 a.scale : Nat) := by
  have ha : (0 : ℚ) < 10 ^ a.scale := by positivity
  have hb : (0 : ℚ) < 10 ^ b.scale := by positivity
  rw [value, value, div_lt_div_iff₀ ha hb]
  exact_mod_cast Iff.rfl

theorem compare_eq_value (a b : Decimal) : a.compare b = Ord.compare a.value b.value := by
  unfold compare
  rcases lt_trichotomy a.value b.value with h | h | h
  · rw [compare_lt_iff_lt.2 h, compare_lt_iff_lt]
    exact value_lt_iff.1 h
  · rw [compare_eq_iff_eq.2 h, compare_eq_iff_eq]
    have hab := mt value_lt_iff.2 h.not_lt
    have hba := mt value_lt_iff.2 h.not_gt
    omega
  · rw [compare_gt_iff_gt.2 h, compare_gt_iff_gt]
    exact value_lt_iff.1 h

theorem same_iff : a.same b = true ↔ a.value = b.value := by
  rw [same, compare_eq_value, beq_iff_eq, compare_eq_iff_eq]

theorem compare_eq_eq_iff : a.compare b = .eq ↔ a.value = b.value := by
  rw [compare_eq_value, compare_eq_iff_eq]

/-- With the same number of places there is only one way to write a number. -/
theorem eq_of_scale_eq (hvalue : a.value = b.value) (hscale : a.scale = b.scale) : a = b := by
  have hpos : (10 : ℚ) ^ b.scale ≠ 0 := by positivity
  have hcoefficient : a.coefficient = b.coefficient := by
    rw [value, value, hscale, div_left_inj' hpos] at hvalue
    exact_mod_cast hvalue
  cases a
  cases b
  simp_all

/-! ### Some values -/

@[simp] theorem value_zero : zero.value = 0 := by simp [value, zero]

@[simp] theorem value_neg (a : Decimal) : a.neg.value = -a.value := by
  simp [value, neg_div]

@[simp] theorem value_ofWord {low high : Int} (w : Bounded low high)
    (h : -0x10000000000000000 ≤ low ∧ high ≤ 0x10000000000000000) :
    (ofWord w h).value = w.val := by
  simp [value, ofWord]

@[simp] theorem value_ofSigned64 (n : Signed64) : (ofSigned64 n).value = n.val :=
  value_ofWord n _

/-- The sign is that of the coefficient. -/
theorem value_nonneg_iff : 0 ≤ a.value ↔ 0 ≤ a.coefficient := by
  have hpos : (0 : ℚ) < 10 ^ a.scale := by positivity
  rw [value, le_div_iff₀ hpos, zero_mul, Int.cast_nonneg_iff]

theorem isZero_iff : a.isZero = true ↔ a.value = 0 := by
  simp [isZero, value]

/-! ### Normal form -/

/-- There is no zero at the end of the decimal places. -/
def IsNormal (a : Decimal) : Prop := a.scale = 0 ∨ ¬ 10 ∣ a.coefficient

/-- The zeros that are taken off are those of a power of ten. -/
theorem stripZeros_mul (c : Int) (s : Nat) :
    (stripZeros c s).1 * 10 ^ (s - (stripZeros c s).2) = c := by
  induction s generalizing c with
  | zero => simp [stripZeros]
  | succ s ih =>
    simp only [stripZeros]
    split
    case isTrue h =>
      have hle := stripZeros_scale_le (c / 10) s
      rw [Nat.sub_add_comm hle, pow_succ, ← mul_assoc, ih]
      omega
    case isFalse => simp

/-- What is left has no decimal places or no zero at its end. -/
theorem stripZeros_normal (c : Int) (s : Nat) :
    (stripZeros c s).2 = 0 ∨ ¬ 10 ∣ (stripZeros c s).1 := by
  induction s generalizing c with
  | zero => exact .inl rfl
  | succ s ih =>
    simp only [stripZeros]
    split
    case isTrue => exact ih (c / 10)
    case isFalse h => exact .inr fun hdvd => h (Int.emod_eq_zero_of_dvd hdvd)

theorem normalize_isNormal (a : Decimal) : a.normalize.IsNormal :=
  stripZeros_normal a.coefficient a.scale

theorem normalize_scale_le (a : Decimal) : a.normalize.scale ≤ a.scale :=
  stripZeros_scale_le a.coefficient a.scale

/-- The coefficient is that of the normal form with the zeros put back. -/
theorem normalize_coefficient_mul (a : Decimal) :
    a.normalize.coefficient * 10 ^ (a.scale - a.normalize.scale) = a.coefficient :=
  stripZeros_mul a.coefficient a.scale

@[simp] theorem value_normalize (a : Decimal) : a.normalize.value = a.value := by
  have hle := a.normalize_scale_le
  have hc : (a.coefficient : ℚ) =
      a.normalize.coefficient * 10 ^ (a.scale - a.normalize.scale) := by
    exact_mod_cast a.normalize_coefficient_mul.symm
  have hp : (10 : ℚ) ^ a.scale = 10 ^ (a.scale - a.normalize.scale) * 10 ^ a.normalize.scale := by
    rw [← pow_add, Nat.sub_add_cancel hle]
  rw [value, value, hc, hp]
  field_simp

/-- With more places than another number of the same value, a number has a zero at the end. -/
theorem dvd_of_scale_lt (h : a.value = b.value) (hlt : b.scale < a.scale) :
    10 ∣ a.coefficient := by
  have hcross : a.coefficient * 10 ^ b.scale = b.coefficient * 10 ^ a.scale := by
    have hq : (a.coefficient : ℚ) * 10 ^ b.scale = b.coefficient * 10 ^ a.scale :=
      (div_eq_div_iff (by positivity) (by positivity)).1 h
    exact_mod_cast hq
  obtain ⟨k, hk⟩ := Nat.exists_eq_add_of_lt hlt
  have hc : a.coefficient = b.coefficient * 10 ^ (k + 1) := by
    have hpos : (10 : Int) ^ b.scale ≠ 0 := by positivity
    apply mul_right_cancel₀ hpos
    rw [hcross, hk, mul_assoc, ← pow_add]
    congr 2
    omega
  exact ⟨b.coefficient * 10 ^ k, by rw [hc, pow_succ]; ring⟩

/-- A value has one normal form. -/
theorem IsNormal.eq_of_value (ha : a.IsNormal) (hb : b.IsNormal) (h : a.value = b.value) :
    a = b := by
  have hscale : a.scale = b.scale := by
    rcases Nat.lt_trichotomy a.scale b.scale with hlt | heq | hlt
    · exact absurd (dvd_of_scale_lt h.symm hlt) (hb.resolve_left (by omega))
    · exact heq
    · exact absurd (dvd_of_scale_lt h hlt) (ha.resolve_left (by omega))
  exact eq_of_scale_eq h hscale

theorem normalize_eq_iff : a.normalize = b.normalize ↔ a.value = b.value := by
  constructor
  · intro h
    rw [← value_normalize a, h, value_normalize]
  · intro h
    exact a.normalize_isNormal.eq_of_value b.normalize_isNormal (by simpa using h)

end XPathData.Decimal
