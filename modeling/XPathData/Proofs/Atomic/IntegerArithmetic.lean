import XPathData.Atomic.Arithmetic
import XPathData.Proofs.Atomic.Order
import XPathData.Proofs.Decimal.Arithmetic

/-! # Arithmetic of integers

  All types of integers are computed in one of two representations: signed words of 64 bits
  if both operands fit there, and otherwise decimals without places. Either way a sum, a
  difference and a product are exact, or too large for the representation. Words are divided
  toward zero, where one quotient alone is too large.

  * `Atomic.operands_fit`, `Atomic.operands_large` — the two representations
  * `Atomic.integerArithmetic_whole`, `Atomic.decimalArithmetic_whole` — exact results
  * `Signed64.quotient_bounds`, `Signed64.remainder_bounds` — which of them are words
  * `Atomic.integers_exact` — the operators on values of any two types of integers
-/

namespace XPathData

/-- The sum, difference or product of two integers; a division is none of these. -/
def ArithmeticOp.whole? : ArithmeticOp → Int → Int → Option Int
  | .add, m, n => some (m + n)
  | .sub, m, n => some (m - n)
  | .mul, m, n => some (m * n)
  | .div, _, _ | .idiv, _, _ | .mod, _, _ => none

/-! ### Words -/

namespace Signed64

/-- The integer is one of 64 bits with a sign. -/
def Fits (n : Int) : Prop := -0x8000000000000000 ≤ n ∧ n ≤ 0x7FFFFFFFFFFFFFFF

instance (n : Int) : Decidable (Fits n) := inferInstanceAs (Decidable (_ ∧ _))

variable {m n : Int}

/-- A quotient toward zero leaves the words in one case, since their least one has no opposite. -/
theorem quotient_bounds (hm : Fits m) (hn : n ≠ 0) :
    Fits (m.tdiv n) ↔ ¬ (m = -0x8000000000000000 ∧ n = -1) := by
  unfold Fits at *
  have habs : (m.tdiv n).natAbs = m.natAbs / n.natAbs := Int.natAbs_tdiv m n
  constructor
  · rintro ⟨-, hhigh⟩ ⟨rfl, rfl⟩
    exact absurd hhigh (by decide)
  · intro hleast
    by_cases hone : n.natAbs = 1
    · rcases (show n = 1 ∨ n = -1 by omega) with rfl | rfl
      · rw [Int.tdiv_one]
        exact hm
      · rw [Int.tdiv_neg, Int.tdiv_one]
        omega
    · -- A divisor of two or more leaves at most half of the magnitude.
      have hhalf : m.natAbs / n.natAbs ≤ m.natAbs / 2 :=
        Nat.div_le_div_left (by omega) (by decide)
      omega

/-- A remainder is not greater than the dividend. -/
theorem remainder_bounds (hm : Fits m) (n : Int) : Fits (m.tmod n) := by
  unfold Fits at *
  have habs : (m.tmod n).natAbs = m.natAbs % n.natAbs := Int.natAbs_tmod m n
  have hle : m.natAbs % n.natAbs ≤ m.natAbs := Nat.mod_le _ _
  rcases Int.le_total 0 m with hpos | hneg
  · have hsign := Int.tmod_nonneg n hpos
    omega
  · have hsign := Int.tmod_nonneg n (Int.neg_nonneg_of_nonpos hneg)
    rw [Int.neg_tmod] at hsign
    omega

/-- A remainder is less than the divisor in magnitude. -/
theorem natAbs_tmod_lt (m : Int) (hn : n ≠ 0) : (m.tmod n).natAbs < n.natAbs := by
  rw [Int.natAbs_tmod]
  apply Nat.mod_lt
  omega

/-- A remainder that is not zero has the sign of the dividend. -/
theorem sign_tmod (m n : Int) : m.tmod n = 0 ∨ (m.tmod n).sign = m.sign := by
  by_cases hzero : m.tmod n = 0
  · exact .inl hzero
  · right
    rcases Int.lt_trichotomy m 0 with hneg | rfl | hpos
    · have hsign := Int.tmod_nonneg n (show 0 ≤ -m by omega)
      rw [Int.neg_tmod] at hsign
      rw [Int.sign_eq_neg_one_of_neg hneg, Int.sign_eq_neg_one_of_neg (by omega)]
    · exact absurd (Int.zero_tmod n) hzero
    · have hsign := Int.tmod_nonneg n (show 0 ≤ m by omega)
      rw [Int.sign_eq_one_of_pos hpos, Int.sign_eq_one_of_pos (by omega)]

end Signed64

namespace Decimal

/-- Digits without places fit as they are, or not at all. -/
theorem fit_whole (n : Int) : fit n (Nat.pow 10 0) 0 = ofInt? n := by
  have hround : Rounding.halfEvenInt n (Nat.pow 10 0) = n := by
    simpa using Rounding.halfEvenInt_mul n (Nat.pow_pos (n := 0) (by decide : 0 < 10))
  rw [fit, hround, ofInt?]

theorem ofInt?_eq_none_iff {n : Int} : ofInt? n = none ↔ ¬ n.natAbs < coefficientLimit := by
  unfold ofInt? ofParts?
  split
  · next h => exact ⟨fun hnone => (by cases hnone), fun hlarge => absurd h.1 hlarge⟩
  · next h => exact ⟨fun _ hlt => h ⟨hlt, no_places_le⟩, fun _ => rfl⟩

theorem value_of_ofInt? {n : Int} {d : Decimal} (h : ofInt? n = some d) : d.value = n := by
  unfold ofInt? ofParts? at h
  split at h
  · cases h
    simp [value]
  · cases h

end Decimal

namespace Atomic

/-! ### The two representations -/

variable {k l : IntegerKind}

/-- The signed word of an integer that fits into one. -/
theorem ofAtomic?_of_fits {x : k.Word} (h : Signed64.Fits x.val) :
    Number.ofAtomic? (.integer k x) = some (.int ⟨x.val, h.1, h.2⟩) := by
  have hword : (Bounded.ofInt? x.val : Option Signed64) = some ⟨x.val, h.1, h.2⟩ :=
    Bounded.ofInt?_eq_some_iff.2 rfl
  simp only [Number.ofAtomic?, hword]

/-- A greater one is a decimal. -/
theorem ofAtomic?_of_not_fits {x : k.Word} (h : ¬ Signed64.Fits x.val) :
    Number.ofAtomic? (.integer k x) = some (.dec (.ofWord x k.bounds)) := by
  have hword : (Bounded.ofInt? x.val : Option Signed64) = none := Bounded.ofInt?_eq_none_iff.2 h
  simp only [Number.ofAtomic?, hword]

/-- Numbers are computed as such. -/
theorem arithmetic_numbers {op : ArithmeticOp} {a b : Atomic} {m n : Number} {ctx : ValueContext}
    (ha : Number.ofAtomic? a = some m) (hb : Number.ofAtomic? b = some n) :
    arithmetic op a b ctx = liftM (numericArithmetic op m n) := by
  have htyped {c : Atomic} {x : Number} (hc : Number.ofAtomic? c = some x) :
      typedOperand c = .ok c := by
    cases c <;> first | rfl | cases hc
  rw [arithmetic, htyped ha, htyped hb]
  show typedArithmetic op a b ctx = _
  rw [typedArithmetic, ha, hb]

/-- Two words are computed as words. -/
theorem operands_fit {x : k.Word} {y : l.Word} (hx : Signed64.Fits x.val)
    (hy : Signed64.Fits y.val) (op : ArithmeticOp) (ctx : ValueContext) :
    arithmetic op (.integer k x) (.integer l y) ctx =
      liftM (integerArithmetic op ⟨x.val, hx.1, hx.2⟩ ⟨y.val, hy.1, hy.2⟩) :=
  arithmetic_numbers (ofAtomic?_of_fits hx) (ofAtomic?_of_fits hy)

/-- Other integers are computed as decimals without places. -/
theorem operands_large {x : k.Word} {y : l.Word}
    (h : ¬ (Signed64.Fits x.val ∧ Signed64.Fits y.val)) (op : ArithmeticOp) (ctx : ValueContext) :
    arithmetic op (.integer k x) (.integer l y) ctx =
      liftM (decimalArithmetic op (.ofWord x k.bounds) (.ofWord y l.bounds)) := by
  by_cases hx : Signed64.Fits x.val
  · have hy : ¬ Signed64.Fits y.val := fun hy => h ⟨hx, hy⟩
    exact arithmetic_numbers (ofAtomic?_of_fits hx) (ofAtomic?_of_not_fits hy)
  · by_cases hy : Signed64.Fits y.val
    · exact arithmetic_numbers (ofAtomic?_of_not_fits hx) (ofAtomic?_of_fits hy)
    · exact arithmetic_numbers (ofAtomic?_of_not_fits hx) (ofAtomic?_of_not_fits hy)

/-! ### Sums, differences and products -/

variable {op : ArithmeticOp} {r : Int}

theorem integerArithmetic_whole {x y : Signed64} (h : op.whole? x.val y.val = some r) :
    integerArithmetic op x y = (orThrow overflow (Bounded.ofInt? r)).map int := by
  cases op with
  | add | sub | mul =>
    cases h
    rfl
  | div | idiv | mod => cases h

/-- Without places nothing is rounded. -/
theorem decimalArithmetic_whole {x y : Decimal} (hx : x.scale = 0) (hy : y.scale = 0)
    (h : op.whole? x.coefficient y.coefficient = some r) :
    decimalArithmetic op x y = (orThrow overflow (Decimal.ofInt? r)).map decimal := by
  have hplace (d : Decimal) : d.atScale 0 = d.coefficient := by
    rw [Decimal.atScale, Nat.zero_sub]
    exact Int.mul_one _
  have hsum (d : Decimal) (hd : d.scale = 0) :
      x.add? d = Decimal.ofInt? (x.coefficient + d.coefficient) := by
    simp only [Decimal.add?, hx, hd, Nat.max_self, hplace, Decimal.fit_whole]
  cases op with
  | add =>
    cases h
    simp only [decimalArithmetic, hsum y hy]
  | sub =>
    cases h
    simp only [decimalArithmetic, Decimal.sub?, hsum y.neg hy, Decimal.neg_coefficient,
      Int.sub_eq_add_neg]
  | mul =>
    cases h
    simp only [decimalArithmetic, Decimal.mul?, hx, hy, Nat.add_zero, Nat.min_zero,
      Decimal.fit_whole]
  | div | idiv | mod => cases h

/-- The result is this integer as a value of the type, or an overflow if it does not fit. -/
def ExactOrOverflow (type : AtomicType) (fits : Prop) (r : Int) (result : Outcome Atomic) : Prop :=
  (∃ v, result = .ok v ∧ v.type = type ∧ v.exactValue? = some (r : ℚ)) ∧ fits ∨
    result = .error (.error overflow) ∧ ¬ fits

theorem ExactOrOverflow.congr {type : AtomicType} {p q : Prop} {result : Outcome Atomic}
    (h : ExactOrOverflow type p r result) (hpq : p ↔ q) : ExactOrOverflow type q r result := by
  rw [← hpq]
  exact h

theorem exact_word (r : Int) :
    ExactOrOverflow (.integer .integer) (Signed64.Fits r) r
      (liftM ((orThrow overflow (Bounded.ofInt? r)).map int)) := by
  cases hword : (Bounded.ofInt? r : Option Signed64) with
  | some w =>
    have hval : w.val = r := Bounded.ofInt?_eq_some_iff.1 hword
    subst hval
    exact .inl ⟨⟨int w, rfl, rfl, rfl⟩, w.low_le, w.le_high⟩
  | none => exact .inr ⟨rfl, Bounded.ofInt?_eq_none_iff.1 hword⟩

theorem exact_decimal (r : Int) :
    ExactOrOverflow .decimal (r.natAbs < coefficientLimit) r
      (liftM ((orThrow overflow (Decimal.ofInt? r)).map decimal)) := by
  cases hdecimal : Decimal.ofInt? r with
  | some d =>
    have hlt : r.natAbs < coefficientLimit := by
      by_contra hlarge
      rw [Decimal.ofInt?_eq_none_iff.2 hlarge] at hdecimal
      cases hdecimal
    exact .inl ⟨⟨decimal d, rfl, rfl, congrArg some (Decimal.value_of_ofInt? hdecimal)⟩, hlt⟩
  | none => exact .inr ⟨rfl, Decimal.ofInt?_eq_none_iff.1 hdecimal⟩

theorem exact_whole (x : k.Word) (y : l.Word) (ctx : ValueContext)
    (h : op.whole? x.val y.val = some r) :
    (Signed64.Fits x.val ∧ Signed64.Fits y.val →
      ExactOrOverflow (.integer .integer) (Signed64.Fits r) r
        (arithmetic op (.integer k x) (.integer l y) ctx)) ∧
    (¬ (Signed64.Fits x.val ∧ Signed64.Fits y.val) →
      ExactOrOverflow .decimal (r.natAbs < coefficientLimit) r
        (arithmetic op (.integer k x) (.integer l y) ctx)) := by
  constructor
  · rintro ⟨hx, hy⟩
    rw [operands_fit hx hy, integerArithmetic_whole h]
    exact exact_word r
  · intro hlarge
    rw [operands_large hlarge, decimalArithmetic_whole rfl rfl h]
    exact exact_decimal r

/-! ### Quotients and remainders -/

theorem exact_quotient {x y : Signed64} (hy : y.val ≠ 0) :
    ExactOrOverflow (.integer .integer) (¬ (x.val = -0x8000000000000000 ∧ y.val = -1))
      (x.val.tdiv y.val) (liftM (integerArithmetic .idiv x y)) := by
  simp only [integerArithmetic, if_neg hy]
  exact (exact_word _).congr (Signed64.quotient_bounds ⟨x.low_le, x.le_high⟩ hy)

theorem remainder_ok (x y : Signed64) (hy : y.val ≠ 0) :
    ∃ r : Signed64, integerArithmetic .mod x y = .ok (int r) ∧ r.val = x.val.tmod y.val := by
  obtain ⟨hlow, hhigh⟩ := Signed64.remainder_bounds ⟨x.low_le, x.le_high⟩ y.val
  have hword : (Bounded.ofInt? (x.val.tmod y.val) : Option Signed64) = some ⟨_, hlow, hhigh⟩ :=
    Bounded.ofInt?_eq_some_iff.2 rfl
  refine ⟨⟨_, hlow, hhigh⟩, ?_, rfl⟩
  simp only [integerArithmetic, if_neg hy, hword]
  rfl

/-- No integer is divided by zero, in either representation. -/
theorem division_by_zero (x : k.Word) (y : l.Word) (hy : y.val = 0)
    (hop : op = .div ∨ op = .idiv ∨ op = .mod) (ctx : ValueContext) :
    arithmetic op (.integer k x) (.integer l y) ctx = .error (.error divisionByZero) := by
  by_cases h : Signed64.Fits x.val ∧ Signed64.Fits y.val
  · rw [operands_fit h.1 h.2]
    have hword : integerArithmetic op ⟨x.val, h.1.1, h.1.2⟩ ⟨y.val, h.2.1, h.2.2⟩ =
        .error divisionByZero := by
      rcases hop with rfl | rfl | rfl <;> simp only [integerArithmetic, if_pos hy]
    rw [hword]
    rfl
  · rw [operands_large h]
    have hzero : (Decimal.ofWord y l.bounds).isZero = true := by
      simp [Decimal.isZero, Decimal.ofWord, hy]
    have hdecimal : decimalArithmetic op (.ofWord x k.bounds) (.ofWord y l.bounds) =
        .error divisionByZero := by
      rcases hop with rfl | rfl | rfl <;> simp only [decimalArithmetic, hzero, if_true]
    rw [hdecimal]
    rfl

/-! ### All operators -/

/-- Arithmetic of values of any two types of integers. A sum, difference or product is the exact
    one, or an overflow: if both operands are signed words of 64 bits, then exactly if the result
    is none, and otherwise if it has more than 96 bits. Signed words are divided toward zero, and
    only the least of them divided by -1 overflows; the remainder never does, is less than the
    divisor in magnitude and has the sign of the dividend. Nothing is divided by zero. -/
theorem integers_exact (k l : IntegerKind) (x : k.Word) (y : l.Word) (ctx : ValueContext) :
    (∀ op r, op.whole? x.val y.val = some r →
      (Signed64.Fits x.val ∧ Signed64.Fits y.val →
        ExactOrOverflow (.integer .integer) (Signed64.Fits r) r
          (arithmetic op (.integer k x) (.integer l y) ctx)) ∧
      (¬ (Signed64.Fits x.val ∧ Signed64.Fits y.val) →
        ExactOrOverflow .decimal (r.natAbs < coefficientLimit) r
          (arithmetic op (.integer k x) (.integer l y) ctx))) ∧
    (Signed64.Fits x.val → Signed64.Fits y.val → y.val ≠ 0 →
      ExactOrOverflow (.integer .integer) (¬ (x.val = -0x8000000000000000 ∧ y.val = -1))
        (x.val.tdiv y.val) (arithmetic .idiv (.integer k x) (.integer l y) ctx) ∧
      ∃ r : Signed64, arithmetic .mod (.integer k x) (.integer l y) ctx = .ok (int r) ∧
        x.val = x.val.tdiv y.val * y.val + r.val ∧ r.val.natAbs < y.val.natAbs ∧
        (r.val = 0 ∨ r.val.sign = x.val.sign)) ∧
    (y.val = 0 → ∀ op, op = .div ∨ op = .idiv ∨ op = .mod →
      arithmetic op (.integer k x) (.integer l y) ctx = .error (.error divisionByZero)) := by
  refine ⟨fun op r h => exact_whole x y ctx h, ?_, ?_⟩
  · intro hx hy hzero
    rw [operands_fit hx hy, operands_fit hx hy]
    obtain ⟨r, hmod, hval⟩ := remainder_ok ⟨x.val, hx.1, hx.2⟩ ⟨y.val, hy.1, hy.2⟩ hzero
    refine ⟨exact_quotient hzero, r, ?_, ?_, ?_, ?_⟩
    · rw [hmod]
      rfl
    · rw [hval, Int.mul_comm]
      exact (Int.mul_tdiv_add_tmod x.val y.val).symm
    · rw [hval]
      exact Signed64.natAbs_tmod_lt x.val hzero
    · rw [hval]
      exact Signed64.sign_tmod x.val y.val
  · intro hy op hop
    exact division_by_zero x y hy hop ctx

/-- Two values at the ends of what their types hold: a sum that only a decimal holds, the one
    quotient that is no word, and the remainder beside it. -/
theorem integers_exact_extremes :
    let greatest : IntegerKind.unsignedLong.Word := ⟨0xFFFFFFFFFFFFFFFF, by decide, by decide⟩
    let least : IntegerKind.long.Word := ⟨-0x8000000000000000, by decide, by decide⟩
    let minusOne : IntegerKind.byte.Word := ⟨-1, by decide, by decide⟩
    ExactOrOverflow .decimal True 0x1FFFFFFFFFFFFFFFE
        (arithmetic .add (.integer .unsignedLong greatest) (.integer .unsignedLong greatest)
          .standard) ∧
      arithmetic .idiv (.integer .long least) (.integer .byte minusOne) .standard =
        .error (.error overflow) ∧
      ∃ r : Signed64, arithmetic .mod (.integer .long least) (.integer .byte minusOne) .standard =
        .ok (int r) ∧ r.val = 0 := by
  intro greatest least minusOne
  -- The greatest value is no signed word, so the sum is one of decimals.
  have hadd :=
    ((integers_exact .unsignedLong .unsignedLong greatest greatest .standard).1 .add _ rfl).2
      (by decide)
  obtain ⟨hidiv, r, hmod, -, hlt, -⟩ := (integers_exact .long .byte least minusOne .standard).2.1
    (by decide) (by decide) (by decide)
  refine ⟨hadd.congr (by decide), ?_, r, hmod, ?_⟩
  · rcases hidiv with ⟨-, hfits⟩ | ⟨herror, -⟩
    · exact absurd ⟨rfl, rfl⟩ hfits
    · exact herror
  · have hone : minusOne.val.natAbs = 1 := rfl
    omega

end Atomic

end XPathData
