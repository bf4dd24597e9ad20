import Mathlib.Data.Nat.Find
import XPathData.Decimal.Remainder
import XPathData.Proofs.Decimal.Arithmetic

/-! # Division of decimal numbers

  A quotient is rounded to the places that fit before its whole part is taken. The whole part is
  that of the exact quotient, or the next number away from zero: this one exactly where the exact
  quotient is so near to it that rounding gets there. The remainder has a routine of its own. It
  always lies below the divisor, on the side of the dividend, and it is the exact one where the
  division by words has nothing to lose.

  * `Rounding.le_halfEven_iff` — which whole numbers rounding reaches
  * `Decimal.of_fit` — a number that fits has the most places
  * `Decimal.whole_of_div?` — the whole part of a rounded quotient
  * `Decimal.of_rem?` — what a remainder is
-/

namespace XPathData

/-! ### Rounding -/

namespace Rounding

variable {n d k : Nat}

/-- Rounding reaches the numbers that lie at most half a unit above the quotient, and of two at
    this distance the even one. -/
theorem le_halfEven_iff (hd : 0 < d) :
    k ≤ halfEven n d ↔ 2 * (k * d) < 2 * n + d ∨ 2 * (k * d) = 2 * n + d ∧ k % 2 = 0 := by
  have hn : n / d * d + n % d = n := Nat.div_add_mod' n d
  have hr : n % d < d := Nat.mod_lt n hd
  rcases Nat.lt_trichotomy k (n / d + 1) with hlt | rfl | hgt
  · -- Up to the quotient nothing is in doubt.
    have hkd : k * d ≤ n / d * d := Nat.mul_le_mul_right d (by omega)
    have hle : n / d ≤ halfEven n d := by
      unfold halfEven
      dsimp only
      split_ifs <;> omega
    exact iff_of_true (by omega) (.inl (by omega))
  · have hsucc : (n / d + 1) * d = n / d * d + d := Nat.succ_mul _ _
    unfold halfEven
    dsimp only
    split_ifs <;> omega
  · have hkd : (n / d + 2) * d ≤ k * d := Nat.mul_le_mul_right d (by omega)
    have htwo : (n / d + 2) * d = n / d * d + 2 * d := Nat.add_mul _ _ _
    have hle : halfEven n d ≤ n / d + 1 := by
      unfold halfEven
      dsimp only
      split_ifs <;> omega
    exact iff_of_false (by omega) (by omega)

theorem even_le_halfEven_iff (hd : 0 < d) (hk : k % 2 = 0) :
    k ≤ halfEven n d ↔ 2 * (k * d) ≤ 2 * n + d := by
  rw [le_halfEven_iff hd]
  omega

/-- Rounding does not pass a whole number. -/
theorem halfEven_le (hd : 0 < d) (h : n ≤ k * d) : halfEven n d ≤ k := by
  by_contra hlt
  have hreach : k + 1 ≤ halfEven n d := by omega
  have hsucc : (k + 1) * d = k * d + d := Nat.add_one_mul k d
  rw [le_halfEven_iff hd] at hreach
  omega

theorem le_halfEven (hd : 0 < d) (h : k * d ≤ n) : k ≤ halfEven n d :=
  (le_halfEven_iff hd).2 (.inl (by omega))

/-- Integers are rounded by their magnitudes. -/
theorem halfEvenInt_eq (n : Int) (d : Nat) : halfEvenInt n d = n.sign * halfEven n.natAbs d := by
  unfold halfEvenInt
  rcases Int.lt_trichotomy n 0 with hneg | rfl | hpos
  · rw [if_pos hneg, Int.sign_eq_neg_one_of_neg hneg, Int.neg_one_mul]
  · simp [halfEven]
  · rw [if_neg (by omega), Int.sign_eq_one_of_pos hpos, Int.one_mul]

theorem natAbs_halfEvenInt (n : Int) (d : Nat) :
    (halfEvenInt n d).natAbs = halfEven n.natAbs d := by
  unfold halfEvenInt
  split
  · rw [Int.natAbs_neg, Int.natAbs_natCast]
  · rw [Int.natAbs_natCast]

end Rounding

open Rounding

/-- Integers are divided by their magnitudes. -/
theorem tdiv_eq_sign_mul (m n : Int) :
    m.tdiv n = m.sign * n.sign * (m.natAbs / n.natAbs : Nat) := by
  have hnat (i j : Nat) : (i : Int).sign * (j : Int).sign * (i / j : Nat) = (i / j : Nat) := by
    rcases Nat.eq_zero_or_pos i with rfl | hi
    · simp
    · rcases Nat.eq_zero_or_pos j with rfl | hj
      · simp
      · rw [Int.sign_eq_one_of_pos (by omega), Int.sign_eq_one_of_pos (by omega), Int.one_mul,
          Int.one_mul]
  obtain ⟨i, rfl | rfl⟩ := m.eq_nat_or_neg <;> obtain ⟨j, rfl | rfl⟩ := n.eq_nat_or_neg <;>
    simp only [Int.neg_tdiv, Int.tdiv_neg, Int.sign_neg, Int.natAbs_neg, Int.natAbs_natCast,
      Int.neg_mul, Int.mul_neg, Int.neg_neg, hnat, ← Int.ofNat_tdiv]

/-- A sign does not take part in a division. -/
theorem sign_mul_tdiv (n : Int) (c d : Nat) : (n.sign * c).tdiv d = n.sign * (c / d : Nat) := by
  rcases Int.lt_trichotomy n 0 with hneg | rfl | hpos
  · rw [Int.sign_eq_neg_one_of_neg hneg, Int.neg_one_mul, Int.neg_one_mul, Int.neg_tdiv,
      Int.ofNat_tdiv]
  · simp
  · rw [Int.sign_eq_one_of_pos hpos, Int.one_mul, Int.one_mul, Int.ofNat_tdiv]

namespace Decimal

variable {a b r x : Decimal}

/-! ### Fitting -/

theorem of_ofParts? {c : Int} {s : Nat} (h : ofParts? c s = some x) :
    x.coefficient = c ∧ x.scale = s := by
  unfold ofParts? at h
  split at h
  · cases h
    exact ⟨rfl, rfl⟩
  · cases h

/-- A number that fits is rounded to the most places for which it does. -/
theorem of_fit {n : Int} {d s : Nat} (hs : s ≤ 28) (h : fit n d s = some x) :
    x.scale ≤ s ∧ x.coefficient = halfEvenInt (n * Nat.pow 10 x.scale) d ∧
      ∀ j, x.scale < j → j ≤ s →
        coefficientLimit ≤ (halfEvenInt (n * Nat.pow 10 j) d).natAbs := by
  induction s with
  | zero =>
    obtain ⟨hc, hscale⟩ := of_ofParts? h
    refine ⟨by omega, ?_, fun j hj hj0 => by omega⟩
    rw [hc, hscale]
    simp
  | succ s ih =>
    rw [fit, Option.or_eq_some_iff] at h
    rcases h with h | ⟨hnone, h⟩
    · obtain ⟨hc, hscale⟩ := of_ofParts? h
      exact ⟨by omega, by rw [hc, hscale], fun j hj hj' => by omega⟩
    · obtain ⟨hle, hc, hmost⟩ := ih (by omega) h
      refine ⟨by omega, hc, fun j hj hj' => ?_⟩
      rcases Nat.lt_or_eq_of_le hj' with hlt | rfl
      · exact hmost j hj (by omega)
      · -- One place more did not fit.
        unfold ofParts? at hnone
        split at hnone
        · cases hnone
        · next hfit => omega

/-- A quotient with room for `j` places is rounded to at least as many. -/
theorem exists_fit {n : Int} {d j p : Nat} (hj : j ≤ p) (hp : p ≤ 28)
    (hroom : (halfEvenInt (n * Nat.pow 10 j) d).natAbs < coefficientLimit) :
    ∃ r, fit n d p = some r ∧ j ≤ r.scale ∧
      r.coefficient = halfEvenInt (n * Nat.pow 10 r.scale) d := by
  have hsome : ∃ r, fit n d p = some r := by
    induction p with
    | zero =>
      obtain rfl : j = 0 := by omega
      have hzero : n * (Nat.pow 10 0 : Nat) = n := Int.mul_one n
      rw [hzero] at hroom
      exact ⟨_, dif_pos ⟨hroom, no_places_le⟩⟩
    | succ p ih =>
      rw [fit]
      by_cases hlast : j = p + 1
      · subst hlast
        exact ⟨_, by rw [ofParts?, dif_pos ⟨hroom, hp⟩]; rfl⟩
      · obtain ⟨r, hr⟩ := ih (by omega) (by omega)
        rw [hr]
        cases ofParts? _ (p + 1) with
        | some x => exact ⟨x, rfl⟩
        | none => exact ⟨r, rfl⟩
  obtain ⟨r, hr⟩ := hsome
  obtain ⟨-, hc, hmost⟩ := of_fit hp hr
  refine ⟨r, hr, ?_, hc⟩
  by_contra hlt
  have hlimit := hmost j (by omega) hj
  omega

/-! ### Quotients -/

/-- The exact quotient, toward zero. -/
def quotient (a b : Decimal) : Int :=
  (a.coefficient * Nat.pow 10 b.scale).tdiv (b.coefficient * Nat.pow 10 a.scale)

/-- The most places, at most 28, that a whole number leaves of 96 bits. -/
def room (n : Nat) : Nat := Nat.findGreatest (fun p => n * 10 ^ p < coefficientLimit) 28

theorem room_fits {n : Nat} (h : n < coefficientLimit) : n * 10 ^ room n < coefficientLimit := by
  have hzero : n * 10 ^ 0 < coefficientLimit := by rwa [pow_zero, mul_one]
  exact Nat.findGreatest_spec (P := fun p => n * 10 ^ p < coefficientLimit) (Nat.zero_le 28) hzero

theorem le_room {n p : Nat} (hp : p ≤ 28) (h : n * 10 ^ p < coefficientLimit) : p ≤ room n :=
  Nat.le_findGreatest hp h

theorem limit_le_of_room_lt {n p : Nat} (hp : p ≤ 28) (h : room n < p) :
    coefficientLimit ≤ n * 10 ^ p :=
  Nat.le_of_not_lt (Nat.findGreatest_is_greatest (P := fun p => n * 10 ^ p < coefficientLimit) h hp)

/-- The whole part of a rounded quotient is that of the exact one, or the next number. -/
theorem rounded_whole (N : Nat) {D : Nat} (hD : 0 < D) (p : Nat) :
    halfEven (N * 10 ^ p) D / 10 ^ p =
      N / D + if (N / D + 1) * 10 ^ p ≤ halfEven (N * 10 ^ p) D then 1 else 0 := by
  have hpow : 0 < 10 ^ p := by positivity
  have hlow : N / D * 10 ^ p ≤ halfEven (N * 10 ^ p) D := by
    apply le_halfEven hD
    calc N / D * 10 ^ p * D = N / D * D * 10 ^ p := by ring
      _ ≤ N * 10 ^ p := Nat.mul_le_mul_right _ (Nat.div_mul_le_self N D)
  have hhigh : halfEven (N * 10 ^ p) D ≤ (N / D + 1) * 10 ^ p := by
    apply halfEven_le hD
    calc N * 10 ^ p ≤ (N / D + 1) * D * 10 ^ p :=
          Nat.mul_le_mul_right _ (Nat.lt_div_mul_add hD |>.le.trans_eq (by ring))
      _ = (N / D + 1) * 10 ^ p * D := by ring
  split
  · next hreach =>
    rw [Nat.le_antisymm hhigh hreach, Nat.mul_div_cancel _ hpow]
  · next hbelow =>
    rw [Nat.add_zero]
    exact Nat.div_eq_of_lt_le hlow (by omega)

/-- Beside a whole number that has no room for one more place there is none at more places either:
    no multiple of a hundred lies right above the limit. -/
theorem limit_le_of_near {N D n p q : Nat} (hD : 0 < D) (hq : 9 ≤ q) (hqp : q < p)
    (hnear : 2 * (n * 10 ^ q * D) ≤ 2 * (N * 10 ^ q) + D)
    (hlarge : coefficientLimit ≤ n * 10 ^ (q + 1)) :
    coefficientLimit ≤ halfEven (N * 10 ^ p) D := by
  obtain ⟨j, rfl⟩ := Nat.exists_eq_add_of_lt hqp
  obtain ⟨i, rfl⟩ := Nat.exists_eq_add_of_le hq
  have hgap : 2 * coefficientLimit + 10 ≤ 2 * (n * 10 ^ (9 + i + 1)) := by
    have hhundred : n * 10 ^ (9 + i + 1) = n * 10 ^ (8 + i) * 100 := by ring
    simp only [coefficientLimit] at *
    omega
  have hone : 1 ≤ 10 ^ j := Nat.one_le_pow _ _ (by decide)
  have hwide : 2 * coefficientLimit + 10 * 10 ^ j ≤ 2 * (n * 10 ^ (9 + i + 1)) * 10 ^ j :=
    calc 2 * coefficientLimit + 10 * 10 ^ j
        ≤ 2 * coefficientLimit * 10 ^ j + 10 * 10 ^ j :=
          Nat.add_le_add_right (Nat.le_mul_of_pos_right _ hone) _
      _ = (2 * coefficientLimit + 10) * 10 ^ j := by ring
      _ ≤ 2 * (n * 10 ^ (9 + i + 1)) * 10 ^ j := Nat.mul_le_mul_right _ hgap
  have hscaled : 2 * (n * 10 ^ (9 + i + 1)) * 10 ^ j * D ≤
      2 * (N * 10 ^ (9 + i + j + 1)) + 10 * 10 ^ j * D :=
    calc 2 * (n * 10 ^ (9 + i + 1)) * 10 ^ j * D
        = 2 * (n * 10 ^ (9 + i) * D) * (10 * 10 ^ j) := by ring
      _ ≤ (2 * (N * 10 ^ (9 + i)) + D) * (10 * 10 ^ j) := Nat.mul_le_mul_right _ hnear
      _ = 2 * (N * 10 ^ (9 + i + j + 1)) + 10 * 10 ^ j * D := by ring
  have hall := (Nat.mul_le_mul_right D hwide).trans hscaled
  rw [even_le_halfEven_iff hD (by decide)]
  linarith

/-- Whether the quotient is rounded to the next whole number shows at the places for which this
    number has room, provided there are some. At more places the coefficient of the next number
    has too many bits, and that of the quotient, if it is so near, has them too. -/
theorem reaches_next_iff {N D p n : Nat} (hD : 0 < D) (hp : p ≤ 28) (hn : N < n * D)
    (hroom : 9 ≤ room n) (hlimit : n < coefficientLimit)
    (hfits : halfEven (N * 10 ^ p) D < coefficientLimit)
    (hmost : ∀ j, p < j → j ≤ 28 → coefficientLimit ≤ halfEven (N * 10 ^ j) D) :
    n * 10 ^ p ≤ halfEven (N * 10 ^ p) D ↔
      2 * (n * 10 ^ room n * D) ≤ 2 * (N * 10 ^ room n) + D := by
  have hle (j : Nat) : halfEven (N * 10 ^ j) D ≤ n * 10 ^ j := by
    apply halfEven_le hD
    calc N * 10 ^ j ≤ n * D * 10 ^ j := Nat.mul_le_mul_right _ hn.le
      _ = n * 10 ^ j * D := by ring
  have heven (j : Nat) (hj : 0 < j) : n * 10 ^ j % 2 = 0 := by
    obtain ⟨j, rfl⟩ := Nat.exists_eq_succ_of_ne_zero hj.ne'
    rw [pow_succ, ← mul_assoc]
    omega
  have hroomFits := room_fits hlimit
  have hroomLe : room n ≤ 28 := Nat.findGreatest_le 28
  rw [← even_le_halfEven_iff hD (heven _ (by omega))]
  rcases Nat.lt_trichotomy p (room n) with hlt | rfl | hgt
  · -- The places for which the next number has room would have been taken.
    have hlarge := hmost _ hlt hroomLe
    have hsmall := hle (room n)
    omega
  · exact Iff.rfl
  · refine iff_of_false (fun hreach => ?_) (fun hreach => ?_)
    · have hlarge := limit_le_of_room_lt hp hgt
      omega
    · have hnear := (even_le_halfEven_iff hD (heven _ (by omega))).1 hreach
      have hlarge := limit_le_of_near hD hroom hgt hnear (limit_le_of_room_lt (by omega) (by omega))
      omega

/-- The exact quotient is so near to the next whole number away from zero that it is rounded to
    it: nearer than half a unit of the last place for which there is room, or just as near. -/
def Carries (a b : Decimal) : Prop :=
  let next := (a.quotient b).natAbs + 1
  next * |b.value| - |a.value| ≤ |b.value| / (2 * 10 ^ room next)

/-! ### Whole parts of quotients -/

@[simp] theorem whole_normalize (x : Decimal) : x.normalize.whole = x.whole := by
  have hle := x.normalize_scale_le
  have hpow : ((Nat.pow 10 x.scale : Nat) : Int) =
      (Nat.pow 10 x.normalize.scale : Nat) * 10 ^ (x.scale - x.normalize.scale) := by
    have hsum : x.scale = x.normalize.scale + (x.scale - x.normalize.scale) := by omega
    show ((10 ^ x.scale : Nat) : Int) = (10 ^ x.normalize.scale : Nat) * _
    conv_lhs => rw [hsum, pow_add]
    push_cast
    rfl
  rw [whole, whole, hpow, ← x.normalize_coefficient_mul]
  exact (Int.mul_tdiv_mul_of_pos_left _ _ (by positivity)).symm

/-- The digits of a number over a denominator that it shares with another one. -/
def digitsBeside (a b : Decimal) : Nat := a.coefficient.natAbs * 10 ^ b.scale

theorem abs_value_eq (a b : Decimal) :
    |a.value| = a.digitsBeside b / 10 ^ (a.scale + b.scale) := by
  have hpos : (0 : ℚ) < 10 ^ a.scale := by positivity
  rw [value, abs_div, abs_of_pos hpos, ← Int.cast_abs, Int.abs_eq_natAbs, Int.cast_natCast,
    pow_add, digitsBeside]
  push_cast
  field_simp

theorem digitsBeside_pos (hb : b.coefficient ≠ 0) : 0 < b.digitsBeside a := by
  have hpow : 0 < 10 ^ a.scale := by positivity
  exact Nat.mul_pos (by omega) hpow

theorem natAbs_quotient (a b : Decimal) :
    (a.quotient b).natAbs = a.digitsBeside b / b.digitsBeside a := by
  rw [quotient, Int.natAbs_tdiv, Int.natAbs_mul, Int.natAbs_mul]
  rfl

theorem sign_mul_pow (c : Int) (s : Nat) : (c * (Nat.pow 10 s : Nat)).sign = c.sign := by
  have hpow : 0 < Nat.pow 10 s := Nat.pow_pos (by decide)
  rw [Int.sign_mul, Int.sign_eq_one_of_pos (Int.natCast_pos.2 hpow), Int.mul_one]

theorem quotient_eq (a b : Decimal) :
    a.quotient b = a.sign * b.sign * (a.digitsBeside b / b.digitsBeside a : Nat) := by
  rw [← natAbs_quotient, quotient, Int.natAbs_tdiv, tdiv_eq_sign_mul, sign_mul_pow, sign_mul_pow]
  rfl

theorem carries_iff (a b : Decimal) :
    a.Carries b ↔
      let next := a.digitsBeside b / b.digitsBeside a + 1
      2 * (next * 10 ^ room next * b.digitsBeside a) ≤
        2 * (a.digitsBeside b * 10 ^ room next) + b.digitsBeside a := by
  unfold Carries
  dsimp only
  rw [natAbs_quotient, abs_value_eq a b, abs_value_eq b a, Nat.add_comm b.scale]
  generalize a.digitsBeside b / b.digitsBeside a + 1 = next
  generalize room next = p
  have hden : (0 : ℚ) < 10 ^ (a.scale + b.scale) := by positivity
  have hpow : (0 : ℚ) < 2 * 10 ^ p := by positivity
  rw [le_div_iff₀ hpow, ← mul_div_assoc, ← sub_div, div_mul_eq_mul_div,
    div_le_div_iff_of_pos_right hden, ← Nat.cast_le (α := ℚ)]
  push_cast
  constructor <;> intro h <;> linarith

/-- The digits of the quotient at some places, without its sign. -/
def quotientDigits (a b : Decimal) (p : Nat) : Nat :=
  halfEven (a.digitsBeside b * 10 ^ p) (b.digitsBeside a)

/-- The whole part of a quotient, at the most places for which its digits fit. -/
theorem of_div? (h : a.div? b = some x) :
    b.coefficient ≠ 0 ∧ ∃ p ≤ 28,
      x.whole = a.sign * b.sign * (a.quotientDigits b p / 10 ^ p : Nat) ∧
      a.quotientDigits b p < coefficientLimit ∧
      ∀ j, p < j → j ≤ 28 → coefficientLimit ≤ a.quotientDigits b j := by
  unfold div? at h
  split at h
  · cases h
  next hzero =>
  have hb : b.coefficient ≠ 0 := by simpa [isZero] using hzero
  obtain ⟨y, hy, rfl⟩ := Option.map_eq_some_iff.1 h
  obtain ⟨hp, hc, hmost⟩ := of_fit (Nat.le_refl 28) hy
  have hsign (j : Nat) : (a.coefficient * Nat.pow 10 b.scale * b.sign * Nat.pow 10 j).sign =
      a.sign * b.sign := by
    rw [sign_mul_pow, Int.sign_mul, sign_mul_pow, sign, sign, Int.sign_sign]
  have hdigits (j : Nat) :
      (a.coefficient * Nat.pow 10 b.scale * b.sign * Nat.pow 10 j).natAbs =
        a.digitsBeside b * 10 ^ j := by
    rw [Int.natAbs_mul, Int.natAbs_mul, Int.natAbs_mul, sign, Int.natAbs_sign_of_ne_zero hb,
      Nat.mul_one]
    rfl
  have hround (j : Nat) :
      halfEvenInt (a.coefficient * Nat.pow 10 b.scale * b.sign * Nat.pow 10 j)
        (b.coefficient.natAbs * Nat.pow 10 a.scale) =
        a.sign * b.sign * a.quotientDigits b j := by
    rw [halfEvenInt_eq, hsign, hdigits]
    rfl
  have hmagnitude (j : Nat) :
      (halfEvenInt (a.coefficient * Nat.pow 10 b.scale * b.sign * Nat.pow 10 j)
        (b.coefficient.natAbs * Nat.pow 10 a.scale)).natAbs = a.quotientDigits b j := by
    rw [natAbs_halfEvenInt, hdigits]
    rfl
  refine ⟨hb, y.scale, hp, ?_, ?_, fun j hj hj' => ?_⟩
  · rw [whole_normalize, whole, hc, hround, sign, sign, ← Int.sign_mul]
    exact sign_mul_tdiv _ _ _
  · rw [← hmagnitude, ← hc]
    exact y.natAbs_lt
  · rw [← hmagnitude]
    exact hmost j hj hj'

/-- The whole part of a rounded quotient is that of the exact one, as long as it has no more than
    64 bits, or the next number away from zero where the quotient carries. -/
theorem whole_of_div? (h : a.div? b = some x) (hword : x.whole.natAbs ≤ 2 ^ 63) :
    (a.Carries b → x.whole = a.quotient b + a.sign * b.sign) ∧
      (¬ a.Carries b → x.whole = a.quotient b) := by
  obtain ⟨hb, p, hp, hwhole, hfits, hmost⟩ := of_div? h
  have hD := digitsBeside_pos (a := a) hb
  have hnext : a.digitsBeside b / b.digitsBeside a ≤ 2 ^ 63 := by
    rcases eq_or_ne a.coefficient 0 with ha | ha
    · simp [digitsBeside, ha]
    · have hone : (a.sign * b.sign).natAbs = 1 := by
        rw [sign, sign, ← Int.sign_mul, Int.natAbs_sign_of_ne_zero (mul_ne_zero ha hb)]
      rw [hwhole, Int.natAbs_mul, hone, Nat.one_mul, Int.natAbs_natCast, quotientDigits,
        rounded_whole _ hD] at hword
      omega
  have hcarries : a.Carries b ↔
      (a.digitsBeside b / b.digitsBeside a + 1) * 10 ^ p ≤ a.quotientDigits b p := by
    rw [carries_iff]
    symm
    refine reaches_next_iff hD hp ?_ ?_ ?_ hfits hmost
    · exact Nat.lt_mul_of_div_lt (Nat.lt_succ_self _) hD
    · refine le_room (by decide) ?_
      simp only [coefficientLimit]
      omega
    · simp only [coefficientLimit]
      omega
  rw [hcarries, hwhole, quotient_eq, quotientDigits, rounded_whole _ hD]
  constructor
  · intro hreach
    rw [if_pos hreach]
    push_cast
    ring
  · intro hbelow
    rw [if_neg hbelow, Nat.add_zero]

/-! ### Remainders -/

theorem shiftLeft_bounds {d : Nat} (hd : 0 < d) :
    0x800000000000000000000000 ≤ d <<< (95 - d.log2) := by
  have hlog : 2 ^ d.log2 ≤ d := Nat.log2_self_le hd.ne'
  calc 0x800000000000000000000000 = 2 ^ 95 := by norm_num
    _ ≤ 2 ^ (d.log2 + (95 - d.log2)) := Nat.pow_le_pow_right (by decide) (by omega)
    _ = 2 ^ d.log2 * 2 ^ (95 - d.log2) := pow_add _ _ _
    _ ≤ d * 2 ^ (95 - d.log2) := Nat.mul_le_mul_right _ hlog
    _ = d <<< (95 - d.log2) := (Nat.shiftLeft_eq _ _).symm

theorem restOf_lt {n d : Nat} (hd : 0 < d) : restOf n d < d := by
  unfold restOf
  split
  · exact Nat.mod_lt _ hd
  · dsimp only
    have hlt := restByWords_lt (shiftLeft_bounds hd) (n <<< (95 - d.log2))
    rw [Nat.shiftRight_eq_div_pow]
    apply Nat.div_lt_of_lt_mul
    rwa [Nat.mul_comm, ← Nat.shiftLeft_eq]

/-- The first word of the rest never reaches that of the divisor, if there is no more than one
    word before the last 96 bits and it lacks its first bit. -/
theorem restByWords_eq_mod {n d : Nat} (hd : 0x800000000000000000000000 ≤ d)
    (hn : n < 0x80000000000000000000000000000000) : restByWords d n = n % d := by
  have hshort {m : Nat} (hm : m < 0x800000000000000000000000) : restByWords d m = m := by
    rw [restByWords, dif_pos hm]
  by_cases hsmall : n < 0x800000000000000000000000
  · rw [hshort hsmall, Nat.mod_eq_of_lt (by omega)]
  · rw [restByWords, dif_neg hsmall, hshort (by omega), nextRest]
    have hjoined : n / 0x100000000 * 0x100000000 + n % 0x100000000 = n := Nat.div_add_mod' _ _
    rw [hjoined, if_neg]
    simp only [coefficientLimit]
    omega

/-- A dividend of at most 96 bits leaves the exact remainder. -/
theorem restOf_eq_mod_of_lt {n d : Nat} (hn : n < coefficientLimit) : restOf n d = n % d := by
  by_cases hd : d < 0x10000000000000000
  · exact restOf_eq_mod hd
  · have hlog : 64 ≤ d.log2 := (Nat.le_log2 (by omega)).2 (by omega)
    have hscale : 2 ^ (95 - d.log2) ≤ 2 ^ 31 := Nat.pow_le_pow_right (by decide) (by omega)
    unfold restOf
    rw [if_neg hd]
    dsimp only
    rw [restByWords_eq_mod (shiftLeft_bounds (by omega)), Nat.shiftLeft_eq, Nat.shiftLeft_eq,
      Nat.shiftRight_eq_div_pow, Nat.mul_mod_mul_right, Nat.mul_div_cancel _ (by positivity)]
    rw [Nat.shiftLeft_eq]
    calc n * 2 ^ (95 - d.log2) ≤ n * 2 ^ 31 := Nat.mul_le_mul_left _ hscale
      _ < coefficientLimit * 2 ^ 31 := Nat.mul_lt_mul_of_pos_right hn (by positivity)

/-- The division of the digits loses nothing: there is nothing to divide, or the dividend or the
    divisor is short enough. -/
def KeepsRest (a b : Decimal) : Prop :=
  |a.value| < |b.value| ∨ b.scale ≤ a.scale ∨
    (b.atScale (max a.scale b.scale)).natAbs < 0x10000000000000000

/-- A number is its digits at some places with its sign. -/
theorem value_eq_sign_mul {s : Nat} (h : a.scale ≤ s) :
    a.value = a.sign * (a.atScale s).natAbs / 10 ^ s := by
  have hsign : (a.atScale s).sign = a.sign := sign_mul_pow _ _
  rw [← value_atScale h, ← hsign, ← Int.cast_natCast (R := ℚ), ← Int.cast_mul,
    Int.sign_mul_natAbs]

/-- The exact quotient is that of the digits at the same places. -/
theorem quotient_atScale (a b : Decimal) :
    a.quotient b = a.sign * b.sign * ((a.atScale (max a.scale b.scale)).natAbs /
      (b.atScale (max a.scale b.scale)).natAbs : Nat) := by
  have hdigits (a b : Decimal) : a.digitsBeside b =
      (a.atScale (max a.scale b.scale)).natAbs * 10 ^ min a.scale b.scale := by
    rw [atScale, Int.natAbs_mul, Int.natAbs_natCast, mul_assoc, digitsBeside]
    show _ = _ * (10 ^ (max a.scale b.scale - a.scale) * 10 ^ min a.scale b.scale)
    rw [← pow_add]
    congr 2
    omega
  rw [quotient_eq, hdigits a b, hdigits b a, max_comm b.scale, min_comm b.scale,
    Nat.mul_div_mul_right _ _ (by positivity)]

theorem quotient_eq_zero (h : |a.value| < |b.value|) : a.quotient b = 0 := by
  have hden : (0 : ℚ) < 10 ^ (a.scale + b.scale) := by positivity
  rw [abs_value_eq a b, abs_value_eq b a, Nat.add_comm b.scale,
    div_lt_div_iff_of_pos_right hden, Nat.cast_lt] at h
  rw [← Int.natAbs_eq_zero, natAbs_quotient, Nat.div_eq_of_lt h]

/-- What a division of digits leaves is the exact remainder, where the division loses nothing. -/
theorem restOf_of_keepsRest (h : a.KeepsRest b) (hle : ¬ |a.value| < |b.value|) :
    restOf (a.atScale (max a.scale b.scale)).natAbs (b.atScale (max a.scale b.scale)).natAbs =
      (a.atScale (max a.scale b.scale)).natAbs % (b.atScale (max a.scale b.scale)).natAbs := by
  rcases h with hlt | hscale | hshort
  · exact absurd hlt hle
  · apply restOf_eq_mod_of_lt
    rw [max_eq_left hscale, atScale, Nat.sub_self]
    simpa using a.natAbs_lt
  · exact restOf_eq_mod hshort

theorem abs_sign (h : a.coefficient ≠ 0) : |(a.sign : ℚ)| = 1 := by
  rcases lt_or_gt_of_ne h with hneg | hpos
  · simp [sign, Int.sign_eq_neg_one_of_neg hneg]
  · simp [sign, Int.sign_eq_one_of_pos hpos]

/-- A number is its exact quotient by another one, and what the division of the digits at the same
    places leaves. -/
theorem value_eq_quotient_add (a : Decimal) (hb : b.coefficient ≠ 0) {s : Nat}
    (hs : s = max a.scale b.scale) :
    a.value = a.quotient b * b.value +
      a.sign * ((a.atScale s).natAbs % (b.atScale s).natAbs : Nat) / 10 ^ s := by
  have haValue := value_eq_sign_mul (le_max_left a.scale b.scale)
  have hbValue := value_eq_sign_mul (le_max_right a.scale b.scale)
  have hquotient := quotient_atScale a b
  rw [← hs] at haValue hbValue hquotient
  -- The sign of the divisor stands in the quotient and in the divisor.
  have hsquare : (b.sign : ℚ) * b.sign = 1 := by
    rw [← abs_mul_abs_self, abs_sign hb, one_mul]
  rw [haValue, hbValue, hquotient, Int.cast_mul, Int.cast_mul, Int.cast_natCast]
  generalize (a.atScale s).natAbs = A
  generalize (b.atScale s).natAbs = B
  have hdivision : (A : ℚ) = B * (A / B : Nat) + (A % B : Nat) := by
    exact_mod_cast (Nat.div_add_mod A B).symm
  calc (a.sign : ℚ) * A / 10 ^ s
      = 1 * (a.sign * (B * (A / B : Nat)) / 10 ^ s) + a.sign * (A % B : Nat) / 10 ^ s := by
        rw [hdivision]
        ring
    _ = a.sign * b.sign * (A / B : Nat) * (b.sign * B / 10 ^ s) +
          a.sign * (A % B : Nat) / 10 ^ s := by
        rw [← hsquare]
        ring

/-- The remainder of two numbers of which the first is not the smaller one. -/
theorem of_restOf (hb : b.coefficient ≠ 0) (hle : ¬ |a.value| < |b.value|)
    (hscale : r.scale = max a.scale b.scale)
    (hc : r.coefficient = a.sign * restOf (a.atScale (max a.scale b.scale)).natAbs
      (b.atScale (max a.scale b.scale)).natAbs) :
    |r.value| < |b.value| ∧ (r.value = 0 ∨ r.sign = a.sign) ∧
      (a.KeepsRest b → a.value = a.quotient b * b.value + r.value) := by
  have hrest := fun h => restOf_of_keepsRest (a := a) (b := b) h hle
  have hbValue := value_eq_sign_mul (le_max_right a.scale b.scale)
  have ha : a.coefficient ≠ 0 := by
    intro hzero
    have hvalue : a.value = 0 := by simp [value, hzero]
    have hpos : 0 < |b.value| := by simpa [value] using hb
    exact hle (by rwa [hvalue, abs_zero])
  rw [← hscale] at hrest hbValue hc
  have hdigits : 0 < (b.atScale r.scale).natAbs := by
    have hten : ((Nat.pow 10 (r.scale - b.scale) : Nat) : Int) ≠ 0 :=
      Int.natCast_ne_zero.2 (Nat.pow_pos (by decide)).ne'
    exact Int.natAbs_pos.2 (mul_ne_zero hb hten)
  have hlt := restOf_lt (n := (a.atScale r.scale).natAbs) hdigits
  have hrValue : r.value = a.sign *
      restOf (a.atScale r.scale).natAbs (b.atScale r.scale).natAbs / 10 ^ r.scale := by
    rw [value, hc]
    push_cast
    rfl
  refine ⟨?_, ?_, ?_⟩
  · rw [hrValue, hbValue, abs_div, abs_div, abs_mul, abs_mul, abs_sign ha, abs_sign hb, one_mul,
      one_mul, Nat.abs_cast, Nat.abs_cast]
    gcongr
  · by_cases hzero : restOf (a.atScale r.scale).natAbs (b.atScale r.scale).natAbs = 0
    · left
      rw [hrValue, hzero, Nat.cast_zero, mul_zero, zero_div]
    · right
      have hpos := Int.natCast_pos.2 (Nat.pos_of_ne_zero hzero)
      rw [sign, hc, Int.sign_mul, Int.sign_eq_one_of_pos hpos, Int.mul_one, sign, Int.sign_sign]
  · intro hkeeps
    rw [hrValue, hrest hkeeps]
    exact value_eq_quotient_add a hb hscale

/-- A remainder is less than the divisor and has the sign of the dividend. It is what the exact
    quotient leaves, where the division loses nothing. -/
theorem of_rem? (h : a.rem? b = some r) :
    |r.value| < |b.value| ∧ (r.value = 0 ∨ r.sign = a.sign) ∧
      (a.KeepsRest b → a.value = a.quotient b * b.value + r.value) := by
  unfold rem? at h
  split at h
  · cases h
  next hzero =>
  have hb : b.coefficient ≠ 0 := by simpa [isZero] using hzero
  split at h
  · next hcompare =>
    cases h
    have hlt : |a.value| < |b.value| := by
      rwa [beq_iff_eq, compare_eq_value, compare_lt_iff_lt, value_abs, value_abs] at hcompare
    refine ⟨hlt, .inr rfl, fun _ => ?_⟩
    rw [quotient_eq_zero hlt]
    simp
  · next hcompare =>
    have hle : ¬ |a.value| < |b.value| := by
      rwa [beq_iff_eq, compare_eq_value, compare_lt_iff_lt, value_abs, value_abs] at hcompare
    obtain ⟨hc, hscale⟩ := of_ofParts? h
    exact of_restOf hb hle hscale hc

/-! ### The division law -/

theorem value_eq_sign_mul_abs (a : Decimal) : a.value = a.sign * |a.value| := by
  have hnonneg := value_nonneg_iff (a := a)
  rcases Int.lt_trichotomy a.coefficient 0 with hneg | hzero | hpos
  · have hvalue : a.value < 0 := not_le.1 (mt hnonneg.1 (not_le.2 hneg))
    rw [sign, Int.sign_eq_neg_one_of_neg hneg, abs_of_neg hvalue]
    simp
  · simp [value, hzero]
  · rw [sign, Int.sign_eq_one_of_pos hpos, abs_of_nonneg (hnonneg.2 hpos.le)]
    simp

theorem abs_lt_next (hb : b.coefficient ≠ 0) :
    |a.value| < ((a.quotient b).natAbs + 1 : Nat) * |b.value| := by
  have hden : (0 : ℚ) < 10 ^ (a.scale + b.scale) := by positivity
  rw [natAbs_quotient, abs_value_eq a b, abs_value_eq b a, Nat.add_comm b.scale, ← mul_div_assoc,
    div_lt_div_iff_of_pos_right hden]
  exact_mod_cast Nat.lt_mul_of_div_lt (Nat.lt_succ_self _) (digitsBeside_pos hb)

/-- A quotient of zero does not carry. -/
theorem sign_ne_zero_of_carries (hb : b.coefficient ≠ 0) (h : a.Carries b) : a.sign ≠ 0 := by
  intro hzero
  have hvalue : |a.value| = 0 := by
    rw [value_eq_sign_mul_abs, hzero, Int.cast_zero, zero_mul, abs_zero]
  have hpos : 0 < |b.value| := by simpa [value] using hb
  have hpow : (1 : ℚ) ≤ 10 ^ room 1 := one_le_pow₀ (by norm_num)
  have hself : |b.value| / (2 * 10 ^ room 1) < |b.value| := div_lt_self hpos (by linarith)
  unfold Carries at h
  rw [quotient_eq_zero (hvalue ▸ hpos), hvalue] at h
  simp only [Int.natAbs_zero, Nat.zero_add, Nat.cast_one, one_mul, sub_zero] at h
  exact absurd h (not_le.2 hself)

/-- The next quotient leaves no remainder on the side of the dividend. -/
theorem ne_of_carries (hb : b.coefficient ≠ 0) (h : a.Carries b)
    (hr : r.value = 0 ∨ r.sign = a.sign) :
    a.value ≠ (a.quotient b + a.sign * b.sign : Int) * b.value + r.value := by
  intro hlaw
  have hrest : r.value = a.sign * |r.value| := by
    rcases hr with hzero | hsign
    · rw [hzero, abs_zero, mul_zero]
    · rw [← hsign]
      exact value_eq_sign_mul_abs r
  have hsquare : (b.sign : ℚ) * b.sign = 1 := by
    rw [← abs_mul_abs_self, abs_sign hb, one_mul]
  have hproduct : ((a.quotient b + a.sign * b.sign : Int) : ℚ) * b.value =
      a.sign * (((a.quotient b).natAbs + 1 : Nat) * |b.value|) := by
    rw [natAbs_quotient, quotient_eq]
    generalize a.digitsBeside b / b.digitsBeside a = k
    calc ((a.sign * b.sign * k + a.sign * b.sign : Int) : ℚ) * b.value
        = a.sign * b.sign * (k + 1) * (b.sign * |b.value|) := by
          rw [← value_eq_sign_mul_abs b]
          push_cast
          ring
      _ = a.sign * (b.sign * b.sign) * ((k + 1) * |b.value|) := by ring
      _ = a.sign * ((k + 1 : Nat) * |b.value|) := by
          rw [hsquare]
          push_cast
          ring
  rw [hproduct, hrest, value_eq_sign_mul_abs a, ← mul_add] at hlaw
  have hne : (a.sign : ℚ) ≠ 0 := Int.cast_ne_zero.2 (sign_ne_zero_of_carries hb h)
  have hsum := mul_left_cancel₀ hne hlaw
  have hnext := abs_lt_next (a := a) hb
  have hnonneg := abs_nonneg r.value
  linarith

end Decimal

end XPathData
