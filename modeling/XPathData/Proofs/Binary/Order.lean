import Mathlib.Order.Compare
import XPathData.Binary.Arithmetic

/-! # The order of floating-point numbers

  Two numbers compare by value, and the other way round their order is the opposite one. NaN is
  the only number without a place in the order, and rounding never makes one: it takes an
  operation on infinities or a quotient of zeros. Numbers without a minus sign stay clear of
  both, as long as factors and divisors are positive.

  * `Binary.compare?_swap` — the order the other way round
  * `Binary.compare?_eq_none_iff` — only NaN has no order
  * `Binary.IsMagnitude` — neither NaN nor negative, kept by sums, products and quotients
-/

namespace XPathData.Binary

variable {f g : BinaryFormat} {x y : Binary f}

/-! ### Order -/

/-- The other way round the order is the opposite one. -/
theorem compare?_swap (x y : Binary f) : y.compare? x = (x.compare? y).map Ordering.swap := by
  cases x with
  | nan => cases y <;> rfl
  | infinity s =>
    cases y with
    | nan => rfl
    | infinity t => exact congrArg some Std.OrientedCmp.eq_swap
    | finite => cases s <;> rfl
  | finite s m e =>
    cases y with
    | nan => rfl
    | infinity t => cases t <;> rfl
    | finite t n k =>
      simp only [compare?, Option.map_some, Int.min_comm k e]
      exact congrArg some Std.OrientedCmp.eq_swap

/-- Only NaN has no order beside other numbers. -/
theorem compare?_eq_none_iff : x.compare? y = none ↔ x.isNaN = true ∨ y.isNaN = true := by
  cases x <;> cases y <;> simp [compare?, isNaN]

/-! ### Rounding does not give NaN -/

/-- Rounding gives an infinity or a finite number, with the given sign. -/
theorem roundRatio_cases (negative : Bool) (n d : Nat) :
    roundRatio f negative n d = infinity negative ∨
      ∃ m e, roundRatio f negative n d = finite negative m e := by
  unfold roundRatio pack
  dsimp only
  split
  case isTrue => exact .inr ⟨_, _, rfl⟩
  case isFalse =>
    split
    · split
      · exact .inl rfl
      · exact .inr ⟨_, _, rfl⟩
    · split
      · exact .inl rfl
      · exact .inr ⟨_, _, rfl⟩

@[simp] theorem isNaN_roundRatio (negative : Bool) (n d : Nat) :
    (roundRatio f negative n d).isNaN = false := by
  obtain h | ⟨m, e, h⟩ := roundRatio_cases (f := f) negative n d
  · rw [h]
    rfl
  · rw [h]
    rfl

@[simp] theorem isNaN_ofInt (n : Int) : (ofInt f n).isNaN = false := isNaN_roundRatio _ _ _

@[simp] theorem isNaN_convert (x : Binary f) : (x.convert g).isNaN = x.isNaN := by
  cases x with
  | finite s m e => exact isNaN_roundRatio _ _ _
  | _ => rfl

/-! ### Magnitudes -/

/-- Neither NaN nor with a minus sign. -/
def IsMagnitude (x : Binary f) : Prop := x.isNaN = false ∧ x.isNegative = false

/-- A finite number above zero. -/
def IsPositive (x : Binary f) : Prop :=
  x.isFinite = true ∧ x.isZero = false ∧ x.isNegative = false

instance : Decidable x.IsPositive := inferInstanceAs (Decidable (_ ∧ _ ∧ _))

theorem isMagnitude_roundRatio (n d : Nat) : (roundRatio f false n d).IsMagnitude := by
  obtain h | ⟨m, e, h⟩ := roundRatio_cases (f := f) false n d
  · rw [h]
    exact ⟨rfl, rfl⟩
  · rw [h]
    exact ⟨rfl, rfl⟩

/-- An integer without a minus sign gives a magnitude. -/
theorem isMagnitude_ofInt {n : Int} (h : 0 ≤ n) : (ofInt f n).IsMagnitude := by
  unfold ofInt
  rw [decide_eq_false (Int.not_lt.2 h)]
  exact isMagnitude_roundRatio _ _

/-- A positive number has a significand above zero and no minus sign. -/
theorem IsPositive.cases (h : x.IsPositive) : ∃ m e, m ≠ 0 ∧ x = finite false m e := by
  obtain ⟨hfinite, hzero, hsign⟩ := h
  cases x with
  | finite s m e =>
    cases hsign
    exact ⟨m, e, by simpa [isZero] using hzero, rfl⟩
  | _ => cases hfinite

/-- A magnitude is infinite or finite, without a minus sign. -/
theorem IsMagnitude.cases (h : x.IsMagnitude) :
    x = infinity false ∨ ∃ m e, x = finite false m e := by
  obtain ⟨hnan, hsign⟩ := h
  cases x with
  | nan => cases hnan
  | infinity s =>
    cases hsign
    exact .inl rfl
  | finite s m e =>
    cases hsign
    exact .inr ⟨m, e, rfl⟩

theorem IsMagnitude.add (hx : x.IsMagnitude) (hy : y.IsMagnitude) : (x.add y).IsMagnitude := by
  obtain rfl | ⟨m, e, rfl⟩ := hx.cases
  · obtain rfl | ⟨n, k, rfl⟩ := hy.cases
    · exact ⟨rfl, rfl⟩
    · exact ⟨rfl, rfl⟩
  · obtain rfl | ⟨n, k, rfl⟩ := hy.cases
    · exact ⟨rfl, rfl⟩
    · -- The sum of two significands without a sign has none.
      have hsum : ¬ alignedTo (min e k) false m e + alignedTo (min e k) false n k < 0 := by
        simp only [alignedTo, Bool.false_eq_true, if_false]
        omega
      simp only [Binary.add, Bool.and_self, decide_eq_false hsum, ite_self]
      exact isMagnitude_roundRatio _ _

/-- The product of a magnitude and a positive number is one: infinity never meets zero. -/
theorem IsMagnitude.mul (hx : x.IsMagnitude) (hy : y.IsPositive) : (x.mul y).IsMagnitude := by
  obtain ⟨n, k, hn, rfl⟩ := hy.cases
  obtain rfl | ⟨m, e, rfl⟩ := hx.cases
  · simp only [Binary.mul, if_neg hn]
    exact ⟨rfl, rfl⟩
  · exact isMagnitude_roundRatio _ _

theorem IsMagnitude.roundHalfAway (hx : x.IsMagnitude) : x.roundHalfAway.IsMagnitude := by
  obtain rfl | ⟨m, e, rfl⟩ := hx.cases
  · exact ⟨rfl, rfl⟩
  · exact isMagnitude_roundRatio _ _

/-- The quotient of a magnitude by a positive number is one. -/
theorem IsMagnitude.div (hx : x.IsMagnitude) (hy : y.IsPositive) : (x.div y).IsMagnitude := by
  obtain ⟨n, k, hn, rfl⟩ := hy.cases
  obtain rfl | ⟨m, e, rfl⟩ := hx.cases
  · exact ⟨rfl, rfl⟩
  · simp only [Binary.div, if_neg hn]
    exact isMagnitude_roundRatio _ _

end XPathData.Binary
