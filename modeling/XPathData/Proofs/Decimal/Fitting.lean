import XPathData.Proofs.Decimal.Division

/-! # Numbers rounded to what fits

  A result that has not enough room is rounded. It is given with the most places for which its
  digits have 96 bits; they are the nearest ones, and a half goes to the even neighbour. This says
  which number it is, as there is only one like that. There is none exactly if the result does
  not fit without places.

  * `Decimal.Nearest` — the whole number that a number is rounded to
  * `Decimal.Rounded` — the decimal number that a number is rounded to
  * `Decimal.fit_eq_some_iff`, `Decimal.exists_fit_iff` — fitting rounds what is below the limit
  * `Decimal.add?_eq_some_iff`, `Decimal.exists_add?_iff` — sums
  * `Decimal.Rounded.value_eq` — what fits without rounding is not changed
-/

namespace XPathData.Decimal

open Rounding

variable {x : ℚ} {k m n : Int} {d p : Nat} {r r' : Decimal}

/-! ### The nearest whole number -/

/-- The whole number nearest to `x`, and of two that are as near the even one. -/
structure Nearest (x : ℚ) (k : Int) : Prop where
  near : |x - k| ≤ 1 / 2
  even : |x - k| = 1 / 2 → k % 2 = 0

theorem Nearest.neg (h : Nearest x k) : Nearest (-x) (-k) := by
  have hdistance : |-x - (-k : Int)| = |x - k| := by
    rw [Int.cast_neg, ← neg_sub', abs_neg]
  refine ⟨?_, ?_⟩
  · rw [hdistance]
    exact h.near
  · intro hhalf
    have heven := h.even (hdistance ▸ hhalf)
    omega

/-- There is only one nearest number. -/
theorem Nearest.unique (hk : Nearest x k) (hm : Nearest x m) : k = m := by
  have hnear (k m : Int) (hk : Nearest x k) (hm : Nearest x m) : ¬ k < m := by
    intro hlt
    have hcast : (k : ℚ) + 1 ≤ m := by exact_mod_cast hlt
    have hk' := abs_le.1 hk.near
    have hm' := abs_le.1 hm.near
    -- Both are half a unit away, and so both are even.
    have hkm : (m : ℚ) = k + 1 := by linarith
    have hhalf : x - k = 1 / 2 := by linarith
    have hhalf' : x - m = -(1 / 2) := by linarith
    have hkeven := hk.even (by rw [hhalf, abs_of_pos (by norm_num)])
    have hmeven := hm.even (by rw [hhalf', abs_neg, abs_of_pos (by norm_num)])
    have hsucc : m = k + 1 := by exact_mod_cast hkm
    omega
  have hkm := hnear k m hk hm
  have hmk := hnear m k hm hk
  omega

theorem nearest_intCast (k : Int) : Nearest k k := by
  refine ⟨?_, ?_⟩
  · rw [sub_self, abs_zero]
    norm_num
  · rw [sub_self, abs_zero]
    norm_num

theorem nearest_halfEven (n : Nat) (hd : 0 < d) : Nearest ((n : ℚ) / d) (halfEven n d) := by
  have hpos : (0 : ℚ) < d := by exact_mod_cast hd
  obtain ⟨hlow, hhigh⟩ := halfEven_near n hd
  have hreach := le_halfEven_iff (n := n) (k := halfEven n d) hd
  have hnext := le_halfEven_iff (n := n) (k := halfEven n d + 1) hd
  generalize halfEven n d = q at *
  have hdistance : (n : ℚ) / d - ((q : Nat) : Int) = (n - q * d) / d := by
    push_cast
    rw [sub_div, mul_div_cancel_right₀ _ hpos.ne']
  have hlow' : (2 : ℚ) * n ≤ 2 * (q * d) + d := by exact_mod_cast hlow
  have hhigh' : (2 : ℚ) * (q * d) ≤ 2 * n + d := by exact_mod_cast hhigh
  refine ⟨?_, ?_⟩
  · rw [hdistance, abs_div, abs_of_pos hpos, div_le_iff₀ hpos, abs_le]
    constructor <;> linarith
  · intro hhalf
    rw [hdistance, abs_div, abs_of_pos hpos, div_eq_iff hpos.ne'] at hhalf
    have hsucc : (q + 1) * d = q * d + d := Nat.add_one_mul q d
    rcases abs_eq (by positivity) |>.1 hhalf with hup | hdown
    · -- Half a unit above an odd number the next one would have been reached.
      have htie : 2 * n = 2 * (q * d) + d := by
        have htie : (2 : ℚ) * n = 2 * (q * d) + d := by linarith
        exact_mod_cast htie
      omega
    · have htie : 2 * (q * d) = 2 * n + d := by
        have htie : (2 : ℚ) * (q * d) = 2 * n + d := by linarith
        exact_mod_cast htie
      omega

theorem nearest_halfEvenInt (n : Int) (hd : 0 < d) :
    Nearest ((n : ℚ) / d) (halfEvenInt n d) := by
  unfold halfEvenInt
  split
  · next hneg =>
    have hcast : (n : ℚ) = -(n.natAbs : ℚ) := by
      rw [Nat.cast_natAbs, abs_of_neg hneg, Int.cast_neg]
      ring
    rw [hcast, neg_div]
    exact (nearest_halfEven n.natAbs hd).neg
  · next hnonneg =>
    have hcast : (n : ℚ) = n.natAbs := by
      rw [Nat.cast_natAbs, abs_of_nonneg (not_lt.1 hnonneg)]
    rw [hcast]
    exact nearest_halfEven n.natAbs hd

/-- An even limit is reached from half a unit below it on. -/
theorem Nearest.le_natAbs_iff (h : Nearest x k) {limit : Nat} (heven : limit % 2 = 0) :
    limit ≤ k.natAbs ↔ (limit : ℚ) - 1 / 2 ≤ |x| := by
  have habs : ((k.natAbs : Int) : ℚ) = |(k : ℚ)| := by
    rw [← Int.abs_eq_natAbs, Int.cast_abs]
  have hdiff := abs_abs_sub_abs_le x k
  have hbounds := abs_le.1 (hdiff.trans h.near)
  constructor
  · intro hle
    have hle' : (limit : ℚ) ≤ |(k : ℚ)| := by
      rw [← habs]
      exact_mod_cast hle
    linarith
  · intro hle
    by_contra hlt
    have hlt' : |(k : ℚ)| ≤ (limit : ℚ) - 1 := by
      have hle : (k.natAbs : Int) ≤ (limit : Int) - 1 := by omega
      rw [← habs]
      exact_mod_cast hle
    -- Then `x` lies between the limit and the odd number before it, which is not nearest.
    have hhalf : |x| - |(k : ℚ)| = 1 / 2 := by linarith
    have htie : |x - k| = 1 / 2 := le_antisymm h.near (hhalf ▸ (le_abs_self _).trans hdiff)
    have hkeven := h.even htie
    have hodd : |(k : ℚ)| = (limit : ℚ) - 1 := by linarith
    rw [← habs] at hodd
    have hodd' : (k.natAbs : Int) = (limit : Int) - 1 := by exact_mod_cast hodd
    omega

/-- Digits have more than 96 bits from half a unit below the limit on. -/
theorem Nearest.limit_le_iff (h : Nearest x k) :
    coefficientLimit ≤ k.natAbs ↔ (coefficientLimit : ℚ) - 1 / 2 ≤ |x| :=
  h.le_natAbs_iff (by decide)

/-! ### The nearest decimal number -/

/-- The decimal number that `x` is rounded to, with at most `p` places: it has the most places for
    which the digits have 96 bits, and the nearest digits. -/
structure Rounded (x : ℚ) (p : Nat) (r : Decimal) : Prop where
  scale_le : r.scale ≤ p
  nearest : Nearest (x * 10 ^ r.scale) r.coefficient
  most : ∀ j, r.scale < j → j ≤ p → (coefficientLimit : ℚ) - 1 / 2 ≤ |x| * 10 ^ j

theorem Rounded.neg (h : Rounded x p r) : Rounded (-x) p r.neg where
  scale_le := h.scale_le
  nearest := by
    show Nearest (-x * 10 ^ r.scale) (-r.coefficient)
    rw [neg_mul]
    exact h.nearest.neg
  most := by
    rw [abs_neg]
    exact h.most

/-- The digits of a rounded number are below the limit. -/
theorem Rounded.abs_lt (h : Rounded x p r) :
    |x| * 10 ^ r.scale < (coefficientLimit : ℚ) - 1 / 2 := by
  have hpos : (0 : ℚ) < 10 ^ r.scale := by positivity
  have hlt := mt h.nearest.limit_le_iff.2 (Nat.not_le.2 r.natAbs_lt)
  rwa [not_le, abs_mul, abs_of_pos hpos] at hlt

/-- So the number itself is. -/
theorem Rounded.abs_lt_limit (h : Rounded x p r) : |x| < (coefficientLimit : ℚ) - 1 / 2 := by
  have hone : (1 : ℚ) ≤ 10 ^ r.scale := one_le_pow₀ (by norm_num)
  exact (le_mul_of_one_le_right (abs_nonneg x) hone).trans_lt h.abs_lt

/-- There is only one rounded number. -/
theorem Rounded.unique (h : Rounded x p r) (h' : Rounded x p r') : r = r' := by
  have hscale {r r' : Decimal} (h : Rounded x p r) (h' : Rounded x p r') : ¬ r.scale < r'.scale :=
    fun hlt => not_lt.2 (h.most r'.scale hlt h'.scale_le) h'.abs_lt
  have heq : r.scale = r'.scale := Nat.le_antisymm (not_lt.1 (hscale h' h)) (not_lt.1 (hscale h h'))
  have hdigits : r.coefficient = r'.coefficient := by
    have hnearest := h.nearest
    rw [heq] at hnearest
    exact hnearest.unique h'.nearest
  cases r
  cases r'
  cases hdigits
  cases heq
  rfl

/-- A number whose digits fit at all places is not changed. -/
theorem Rounded.value_eq (h : Rounded x p r) (hk : x * 10 ^ p = k)
    (hfits : k.natAbs < coefficientLimit) : r.value = x := by
  have hpos : (0 : ℚ) < 10 ^ p := by positivity
  have hsmall : |x| * 10 ^ p < (coefficientLimit : ℚ) - 1 / 2 := by
    have hlt := mt (nearest_intCast k).limit_le_iff.2 (Nat.not_le.2 hfits)
    rwa [not_le, ← hk, abs_mul, abs_of_pos hpos] at hlt
  have hscale : r.scale = p := by
    refine Nat.le_antisymm h.scale_le (not_lt.1 fun hlt => ?_)
    exact not_lt.2 (h.most p hlt (Nat.le_refl p)) hsmall
  have hdigits : r.coefficient = k := by
    have hnearest := h.nearest
    rw [hscale, hk] at hnearest
    exact hnearest.unique (nearest_intCast k)
  rw [value, hdigits, hscale, ← hk, mul_div_cancel_right₀ _ hpos.ne']

/-! ### Fitting -/

theorem nearest_digits (n : Int) (hd : 0 < d) (j : Nat) :
    Nearest ((n : ℚ) / d * 10 ^ j) (halfEvenInt (n * Nat.pow 10 j) d) := by
  have hcast : (n : ℚ) / d * 10 ^ j = ((n * Nat.pow 10 j : Int) : ℚ) / d := by
    show (n : ℚ) / d * 10 ^ j = ((n * (10 ^ j : Nat) : Int) : ℚ) / d
    push_cast
    rw [div_mul_eq_mul_div]
  rw [hcast]
  exact nearest_halfEvenInt _ hd

theorem limit_le_digits_iff (n : Int) (hd : 0 < d) (j : Nat) :
    coefficientLimit ≤ (halfEvenInt (n * Nat.pow 10 j) d).natAbs ↔
      (coefficientLimit : ℚ) - 1 / 2 ≤ |(n : ℚ) / d| * 10 ^ j := by
  have hpos : (0 : ℚ) < 10 ^ j := by positivity
  rw [(nearest_digits n hd j).limit_le_iff, abs_mul, abs_of_pos hpos]

theorem rounded_of_fit (hd : 0 < d) (hp : p ≤ 28) (h : fit n d p = some r) :
    Rounded ((n : ℚ) / d) p r := by
  obtain ⟨hscale, hdigits, hmost⟩ := of_fit hp h
  refine ⟨hscale, ?_, ?_⟩
  · rw [hdigits]
    exact nearest_digits n hd r.scale
  · intro j hj hjp
    exact (limit_le_digits_iff n hd j).1 (hmost j hj hjp)

/-- A quotient fits exactly if it is less than half a unit below the limit. -/
theorem exists_fit_iff (hd : 0 < d) (hp : p ≤ 28) :
    (∃ r, fit n d p = some r) ↔ |(n : ℚ) / d| < (coefficientLimit : ℚ) - 1 / 2 := by
  constructor
  · rintro ⟨r, hr⟩
    exact (rounded_of_fit hd hp hr).abs_lt_limit
  · intro hlt
    have hroom : (halfEvenInt (n * Nat.pow 10 0) d).natAbs < coefficientLimit := by
      rw [← Nat.not_le, limit_le_digits_iff n hd 0, pow_zero, mul_one, not_le]
      exact hlt
    obtain ⟨r, hr, -⟩ := exists_fit (Nat.zero_le p) hp hroom
    exact ⟨r, hr⟩

theorem fit_eq_some_iff (hd : 0 < d) (hp : p ≤ 28) :
    fit n d p = some r ↔ Rounded ((n : ℚ) / d) p r := by
  refine ⟨rounded_of_fit hd hp, fun h => ?_⟩
  obtain ⟨r', hr'⟩ := (exists_fit_iff hd hp).2 h.abs_lt_limit
  rw [hr', (rounded_of_fit hd hp hr').unique h]

/-! ### Sums -/

/-- The digits of a sum over the power of ten that both numbers share. -/
theorem sum_eq (a b : Decimal) :
    ((a.atScale (max a.scale b.scale) + b.atScale (max a.scale b.scale) : Int) : ℚ) /
      (Nat.pow 10 (max a.scale b.scale) : Nat) = a.value + b.value := by
  show _ / (((10 : Nat) ^ max a.scale b.scale : Nat) : ℚ) = _
  push_cast
  rw [add_div, value_atScale (le_max_left _ _), value_atScale (le_max_right _ _)]

/-- A sum is the rounded one, with at most the places of the longer number. -/
theorem add?_eq_some_iff {a b : Decimal} :
    a.add? b = some r ↔ Rounded (a.value + b.value) (max a.scale b.scale) r := by
  have hten : 0 < Nat.pow 10 (max a.scale b.scale) := Nat.pow_pos (by decide)
  unfold add?
  dsimp only
  rw [fit_eq_some_iff hten (max_le a.scale_le b.scale_le), sum_eq]

/-- There is a sum exactly if it fits without places. -/
theorem exists_add?_iff {a b : Decimal} :
    (∃ r, a.add? b = some r) ↔ |a.value + b.value| < (coefficientLimit : ℚ) - 1 / 2 := by
  have hten : 0 < Nat.pow 10 (max a.scale b.scale) := Nat.pow_pos (by decide)
  unfold add?
  dsimp only
  rw [exists_fit_iff hten (max_le a.scale_le b.scale_le), sum_eq]

/-! ### Whole numbers -/

/-- The number is a natural number, written without places. -/
structure IsWhole (r : Decimal) (n : Nat) : Prop where
  coefficient_eq : r.coefficient = n
  scale_eq : r.scale = 0

theorem exists_isWhole {n : Nat} (h : n < coefficientLimit) : ∃ r : Decimal, r.IsWhole n :=
  ⟨⟨(n : Nat), 0, h, no_places_le⟩, rfl, rfl⟩

namespace IsWhole

variable {a b : Decimal} {m n : Nat}

theorem value_eq (h : IsWhole a n) : a.value = n := by
  rw [value, h.coefficient_eq, h.scale_eq, pow_zero, div_one, Int.cast_natCast]

theorem unique (ha : IsWhole a n) (hb : IsWhole b n) : a = b :=
  eq_of_scale_eq (ha.value_eq.trans hb.value_eq.symm) (ha.scale_eq.trans hb.scale_eq.symm)

/-- Products of whole numbers are exact. -/
theorem exists_mul (ha : IsWhole a m) (hb : IsWhole b n) (hfits : m * n < coefficientLimit) :
    ∃ r, a.mul? b = some r ∧ IsWhole r (m * n) := by
  have hproduct : a.coefficient * b.coefficient = (m * n : Nat) := by
    rw [ha.coefficient_eq, hb.coefficient_eq, Nat.cast_mul]
  refine ⟨⟨(m * n : Nat), 0, hfits, no_places_le⟩, ?_, rfl, rfl⟩
  unfold mul?
  rw [ha.scale_eq, hb.scale_eq, hproduct]
  have hdigits : ((m * n : Nat) : Int).natAbs < coefficientLimit := hfits
  exact fit_places hdigits no_places_le

/-- Sums of whole numbers are exact. -/
theorem exists_add (ha : IsWhole a m) (hb : IsWhole b n) (hfits : m + n < coefficientLimit) :
    ∃ r, a.add? b = some r ∧ IsWhole r (m + n) := by
  have hsum : a.atScale 0 + b.atScale 0 = (m + n : Nat) := by
    unfold atScale
    rw [ha.coefficient_eq, hb.coefficient_eq, ha.scale_eq, hb.scale_eq]
    show (m : Int) * 1 + n * 1 = (m + n : Nat)
    omega
  refine ⟨⟨(m + n : Nat), 0, hfits, no_places_le⟩, ?_, rfl, rfl⟩
  unfold add?
  rw [ha.scale_eq, hb.scale_eq]
  dsimp only
  rw [Nat.max_self, hsum]
  have hdigits : ((m + n : Nat) : Int).natAbs < coefficientLimit := hfits
  exact fit_places hdigits no_places_le

/-- The number one changes no product. -/
theorem mul_one (hb : IsWhole b 1) (a : Decimal) : a.mul? b = some a := by
  unfold mul?
  rw [hb.coefficient_eq, hb.scale_eq, Nat.add_zero, min_eq_right a.scale_le, Nat.cast_one,
    Int.mul_one]
  exact fit_places a.natAbs_lt a.scale_le

theorem rounded (h : IsWhole a n) : Rounded n 0 a where
  scale_le := h.scale_eq.le
  nearest := by
    rw [h.scale_eq, h.coefficient_eq, pow_zero, MulOneClass.mul_one]
    exact nearest_intCast n
  most := by
    intro j hj hj0
    omega

/-- A sum with a whole number keeps the places of the other one, and only its size matters. -/
theorem exists_rounded (hb : IsWhole b n)
    (hfits : |a.value + n| < (coefficientLimit : ℚ) - 1 / 2) :
    ∃ r, Rounded (a.value + n) a.scale r := by
  rw [← hb.value_eq] at hfits ⊢
  obtain ⟨r, hr⟩ := exists_add?_iff.2 hfits
  rw [add?_eq_some_iff, hb.scale_eq, Nat.max_zero] at hr
  exact ⟨r, hr⟩

end IsWhole

end XPathData.Decimal
