import XPathData.Proofs.Atomic.Commutation
import XPathData.Proofs.Atomic.IntegerArithmetic
import XPathData.Proofs.Decimal.Double

/-! # Subtraction as addition of the opposite

  Sums and differences have branches of their own for numbers, durations and times. A difference
  is the sum with the opposite of the second operand in all of them, as far as there is an
  opposite, and so it leaves the range in the same cases. Only the sign of a zero may differ: the
  opposite of an integer zero has no sign, but becomes a positive zero beside a floating-point
  number.

  * `Binary.Alike` — the same number, but for the sign of a zero
  * `Atomic.numericArithmetic_sub` — differences of numbers
  * `Atomic.Opposite`, `Atomic.gives_minus` — the values that have an opposite
  * `Atomic.sub_eq_add_minus` — differences of any two values
-/

namespace XPathData

/-! ### Exact numbers -/

namespace Bounded

variable {low high : Int} {x y z : Bounded low high}

theorem val_of_neg? (h : y.neg? = some z) : z.val = -y.val := ofInt?_eq_some_iff.1 h

theorem sub?_eq_add? (h : y.neg? = some z) : x.sub? y = x.add? z := by
  unfold sub? add?
  rw [val_of_neg? h, Int.sub_eq_add_neg]

end Bounded

theorem Decimal.nanos_neg (s : Decimal) : s.neg.nanos = -s.nanos := by
  unfold nanos
  rw [neg_coefficient, neg_scale, Int.neg_mul, Int.neg_tdiv]

/-! ### Floating-point numbers -/

namespace Binary

variable {f g : BinaryFormat} {x y : Binary f}

/-- The same number, but for the sign of a zero. -/
def Alike (x y : Binary f) : Prop := y = x ∨ x.isZero = true ∧ y = x.neg

theorem Alike.refl (x : Binary f) : x.Alike x := .inl rfl

theorem exists_of_isZero (h : x.isZero = true) : ∃ s e, x = finite s 0 e := by
  cases x with
  | nan | infinity => cases h
  | finite s m e =>
    obtain rfl : m = 0 := by simpa [isZero] using h
    exact ⟨s, e, rfl⟩

theorem roundScaled_zero (negative : Bool) (e : Int) :
    roundScaled f negative 0 e = finite negative 0 f.minExponent := by
  unfold roundScaled roundRatio
  exact if_pos (Nat.zero_mul _)

theorem neg_convert (x : Binary f) : x.neg.convert g = (x.convert g).neg := by
  cases x with
  | nan | infinity => rfl
  | finite s m e => exact (neg_roundRatio _ _ _).symm

theorem Alike.convert (h : x.Alike y) : (x.convert g).Alike (y.convert g) := by
  rcases h with rfl | ⟨hzero, rfl⟩
  · exact Alike.refl _
  · obtain ⟨s, e, rfl⟩ := exists_of_isZero hzero
    refine .inr ⟨?_, neg_convert _⟩
    show (roundScaled g s 0 e).isZero = true
    rw [roundScaled_zero]
    rfl

theorem alignedTo_zero (unit : Int) (negative : Bool) (e : Int) :
    alignedTo unit negative 0 e = 0 := by
  simp [alignedTo, scaleUp]

/-- The sign of a zero matters only in a sum that is zero itself. -/
theorem Alike.add (z : Binary f) (h : x.Alike y) : (z.add x).Alike (z.add y) := by
  rcases h with rfl | ⟨hzero, rfl⟩
  · exact Alike.refl _
  · obtain ⟨t, k, rfl⟩ := exists_of_isZero hzero
    cases z with
    | nan | infinity => exact Alike.refl _
    | finite s m e =>
      simp only [add, neg, alignedTo_zero, Int.add_zero]
      by_cases hsum : alignedTo (min e k) s m e = 0
      · rw [hsum, if_pos rfl, if_pos rfl, Int.natAbs_zero, roundScaled_zero, roundScaled_zero]
        cases s <;> cases t <;> first | exact Alike.refl _ | exact .inr ⟨rfl, rfl⟩
      · rw [if_neg hsum, if_neg hsum]
        exact Alike.refl _

/-- Numbers that are alike are equal, and NaN is like itself alone. -/
theorem Alike.same_or (h : x.Alike y) : x.same y = true ∨ x.isNaN = true ∧ y.isNaN = true := by
  rcases h with rfl | ⟨hzero, rfl⟩
  · cases y with
    | nan => exact .inr ⟨rfl, rfl⟩
    | infinity s => cases s <;> exact .inl rfl
    | finite s m e => simp [same, compare?]
  · obtain ⟨s, e, rfl⟩ := exists_of_isZero hzero
    simp [same, compare?, neg, alignedTo_zero]

/-- The opposite integer gives the opposite number, but zero gives the positive zero again. -/
theorem ofInt_neg (n : Int) : (ofInt f n).neg.Alike (ofInt f (-n)) := by
  by_cases hzero : n = 0
  · subst hzero
    exact .inr ⟨rfl, rfl⟩
  · left
    unfold ofInt
    have hsign : decide (-n < 0) = !decide (n < 0) := by
      rw [← decide_not, decide_eq_decide]
      omega
    rw [neg_roundRatio, Int.natAbs_neg, hsign]

theorem ofInt_of_neg? {low high : Int} {n k : Bounded low high} (h : n.neg? = some k) :
    (ofInt f n.val).neg.Alike (ofInt f k.val) := by
  rw [Bounded.val_of_neg? h]
  exact ofInt_neg n.val

end Binary

namespace Decimal

/-- The steps to a double look at the magnitude, and the sign is put on last. -/
theorem toDouble_neg (d : Decimal) : d.toDouble.neg.Alike d.neg.toDouble := by
  by_cases hzero : d.coefficient = 0
  · have hwhole : d.coefficient = 0 * (Nat.pow 10 d.scale : Nat) := by rw [hzero, Int.zero_mul]
    have hnegWhole : d.neg.coefficient = 0 * (Nat.pow 10 d.neg.scale : Nat) := by
      rw [neg_coefficient, hzero, Int.zero_mul]
      rfl
    rw [toDouble_of_whole hwhole, toDouble_of_whole hnegWhole]
    exact Binary.ofInt_neg 0
  · left
    unfold toDouble
    rw [neg_coefficient, Int.natAbs_neg, neg_scale]
    dsimp only
    by_cases hneg : d.coefficient < 0
    · rw [if_pos hneg, if_neg (by omega), Binary.neg_neg]
    · rw [if_neg hneg, if_pos (by omega)]

end Decimal

/-! ### Numbers -/

namespace Number

variable {x y z : Number}

/-- The opposite number, in the same representation. -/
def neg? : Number → Option Number
  | int n => n.neg?.map int
  | dec d => some (dec d.neg)
  | single x => some (single x.neg)
  | double x => some (double x.neg)

theorem toDouble_neg (h : y.neg? = some z) : y.toDouble.neg.Alike z.toDouble := by
  cases y with
  | int n =>
    obtain ⟨k, hk, rfl⟩ := Option.map_eq_some_iff.1 h
    exact Binary.ofInt_of_neg? hk
  | dec d =>
    cases h
    exact d.toDouble_neg
  | single x =>
    cases h
    exact .inl (Binary.neg_convert x)
  | double x =>
    cases h
    exact .inl rfl

theorem toSingle_neg (h : y.neg? = some z) : y.toSingle.neg.Alike z.toSingle := by
  cases y with
  | int n =>
    obtain ⟨k, hk, rfl⟩ := Option.map_eq_some_iff.1 h
    exact Binary.ofInt_of_neg? hk
  | dec d =>
    cases h
    show (d.toDouble.convert _).neg.Alike (d.neg.toDouble.convert _)
    rw [← Binary.neg_convert]
    exact d.toDouble_neg.convert
  | single x =>
    cases h
    exact .inl rfl
  | double x =>
    cases h
    exact .inl (Binary.neg_convert x)

/-- The second of two numbers is replaced by its opposite. -/
inductive Pair.Opposite : Pair → Pair → Prop
  | int {m n k : Signed64} (h : n.neg? = some k) : Opposite (.int m n) (.int m k)
  | dec {d e : Decimal} : Opposite (.dec d e) (.dec d e.neg)
  | single {x y z : Single} (h : y.neg.Alike z) : Opposite (.single x y) (.single x z)
  | double {x y z : Double} (h : y.neg.Alike z) : Opposite (.double x y) (.double x z)

/-- A number meets the opposite of another one where it meets that one. -/
theorem unify_neg (x : Number) (h : y.neg? = some z) : (unify x y).Opposite (unify x z) := by
  have hsingle := toSingle_neg h
  have hdouble := toDouble_neg h
  cases y with
  | int n =>
    obtain ⟨k, hk, rfl⟩ := Option.map_eq_some_iff.1 h
    have hword : Decimal.ofSigned64 k = (Decimal.ofSigned64 n).neg := by
      simp [Decimal.ofSigned64, Decimal.ofWord, Decimal.neg, Bounded.val_of_neg? hk]
    cases x with
    | int m => exact .int hk
    | dec d =>
      show Pair.Opposite (.dec d _) (.dec d _)
      rw [hword]
      exact .dec
    | single x => exact .single hsingle
    | double x => exact .double hdouble
  | dec d =>
    cases h
    cases x with
    | int m => exact .dec
    | dec d => exact .dec
    | single x => exact .single hsingle
    | double x => exact .double hdouble
  | single y =>
    cases h
    cases x with
    | int | dec | single => exact .single (.inl rfl)
    | double x => exact .double hdouble
  | double y =>
    cases h
    cases x <;> exact .double (.inl rfl)

end Number

namespace Atomic

variable {a b c n : Atomic} {ctx : ValueContext}

/-! ### Equal values -/

/-- The same value, where NaN counts as the same as itself. -/
def EqualOrNaN (v w : Atomic) : Prop :=
  v.same w = true ∨ v.type = w.type ∧ v.isNaN = true ∧ w.isNaN = true

theorem equalOrNaN_float {x y : Single} (h : x.Alike y) : EqualOrNaN (float x) (float y) := by
  rcases h.same_or with hsame | ⟨hx, hy⟩
  · exact .inl hsame
  · exact .inr ⟨rfl, hx, hy⟩

theorem equalOrNaN_double {x y : Double} (h : x.Alike y) : EqualOrNaN (double x) (double y) := by
  rcases h.same_or with hsame | ⟨hx, hy⟩
  · exact .inl hsame
  · exact .inr ⟨rfl, hx, hy⟩

theorem EqualOrNaN.refl (v : Atomic) : EqualOrNaN v v := by
  cases v with
  | float x => exact equalOrNaN_float (Binary.Alike.refl x)
  | double x => exact equalOrNaN_double (Binary.Alike.refl x)
  | decimal d => exact .inl (Decimal.same_iff.2 rfl)
  | dayTimeDuration s => exact .inl (Decimal.same_iff.2 rfl)
  | duration m s =>
    left
    show (m == m && s.same s) = true
    rw [beq_self_eq_true, Decimal.same_iff.2 rfl]
    rfl
  | _ => exact .inl (beq_self_eq_true _)

/-! ### Differences of numbers -/

theorem numericArithmetic_sub (x : Number) {y z : Number} (h : y.neg? = some z) :
    Coincide EqualOrNaN (liftM (numericArithmetic .sub x y))
      (liftM (numericArithmetic .add x z)) := by
  have hopposite := Number.unify_neg x h
  unfold numericArithmetic
  generalize Number.unify x y = p at hopposite
  generalize Number.unify x z = q at hopposite
  cases hopposite with
  | int hneg =>
    simp only [integerArithmetic]
    rw [Bounded.sub?_eq_add? hneg]
    exact Coincide.lift EqualOrNaN.refl _
  | dec => exact Coincide.lift EqualOrNaN.refl _
  | single hneg =>
    -- Differences of 32 bits are formed in 64 bits and rounded once more.
    apply Coincide.ok
    apply equalOrNaN_float
    have hwide := hneg.convert (g := .binary64)
    rw [Binary.neg_convert] at hwide
    exact (hwide.add _).convert
  | double hneg =>
    apply Coincide.ok
    apply equalOrNaN_double
    exact hneg.add _

/-! ### Opposite values -/

/-- Numbers, months and seconds have an opposite. -/
inductive Opposite : Atomic → Atomic → Prop
  | number {c : Atomic} {y z : Number} (hy : Number.ofAtomic? c = some y) (hz : y.neg? = some z) :
    Opposite c z.toAtomic
  | months {m k : Signed32} (h : m.neg? = some k) :
    Opposite (yearMonthDuration m) (yearMonthDuration k)
  | seconds (s : Decimal) : Opposite (dayTimeDuration s) (dayTimeDuration s.neg)

theorem ofAtomic?_toAtomic (x : Number) : Number.ofAtomic? x.toAtomic = some x := by
  cases x with
  | int n => exact ofAtomic?_of_fits ⟨n.low_le, n.le_high⟩
  | dec | single | double => rfl

/-- The minus gives the opposite of the typed operand. -/
theorem gives_minus (b : Atomic) :
    Gives (minus b) fun n => ∃ c, typedOperand b = .ok c ∧ Opposite c n := by
  refine Gives.bind_of (p := fun c => typedOperand b = .ok c) (fun c hc => hc) fun c hc => ?_
  split
  case h_1 m hm =>
    -- The least integer has no opposite of 64 bits, and the least number of months none of 32.
    refine Gives.map_of (p := fun k => m.neg? = some k) (gives_orThrow fun k hk => hk) ?_
    intro k hk
    exact ⟨_, hc, .number hm (congrArg (Option.map Number.int) hk)⟩
  case h_2 hd => exact Gives.ok ⟨_, hc, .number hd rfl⟩
  case h_3 hx => exact Gives.ok ⟨_, hc, .number hx rfl⟩
  case h_4 hx => exact Gives.ok ⟨_, hc, .number hx rfl⟩
  case h_5 m _ =>
    refine Gives.map_of (p := fun k => m.neg? = some k) (gives_orThrow fun k hk => hk) ?_
    intro k hk
    exact ⟨_, hc, .months hk⟩
  case h_6 s _ => exact Gives.ok ⟨_, hc, .seconds s⟩
  case h_7 => exact Gives.error _

theorem Opposite.typedOperand_eq (h : Opposite c n) : typedOperand n = .ok n := by
  cases h with
  | @number c y z hy hz => cases z <;> rfl
  | months | seconds => rfl

theorem Opposite.ofAtomic?_eq_none (h : Opposite c n) (hc : Number.ofAtomic? c = none) :
    Number.ofAtomic? n = none := by
  cases h with
  | number hy hz => cases hc.symm.trans hy
  | months | seconds => rfl

/-! ### Differences -/

/-- Numbers are not added to anything but numbers. -/
theorem durationArithmetic_number {op : ArithmeticOp} {y : Number} (hop : op = .add ∨ op = .sub)
    (hb : Number.ofAtomic? b = some y) : durationArithmetic op a b = none := by
  have hduration : b.type.isDuration = false := by
    cases b <;> first | rfl | cases hb
  cases h : durationArithmetic op a b with
  | none => rfl
  | some r =>
    unfold durationArithmetic at h
    split at h
    case h_1 | h_2 | h_3 | h_4 | h_5 | h_6 => cases hduration
    case h_7 | h_8 | h_9 | h_10 | h_11 | h_12 => rcases hop with hop | hop <;> cases hop
    case h_13 =>
      rw [hduration, Bool.and_false] at h
      cases h

/-- A duration that is a difference of others is the sum with the opposite one. -/
theorem durationArithmetic_sub (h : Opposite c n) :
    durationArithmetic .sub a c = durationArithmetic .add a n := by
  cases h with
  | number hy hz =>
    rw [durationArithmetic_number (.inr rfl) hy,
      durationArithmetic_number (.inl rfl) (ofAtomic?_toAtomic _)]
  | months hk =>
    cases a with
    | yearMonthDuration l =>
      show some ((orThrow _ (l.sub? _)).map _) = some ((orThrow _ (l.add? _)).map _)
      rw [Bounded.sub?_eq_add? hk]
    | duration l s =>
      -- The seconds that the months lack are zero, which is its own opposite.
      show some (joinDuration (l.sub? _) (s.sub? .zero)) =
        some (joinDuration (l.add? _) (s.add? .zero))
      rw [Bounded.sub?_eq_add? hk]
      rfl
    | _ => rfl
  | seconds s =>
    cases a with
    | duration l u =>
      have hzero : Signed32.zero.neg? = some Signed32.zero := rfl
      show some (joinDuration (l.sub? Signed32.zero) (u.sub? s)) =
        some (joinDuration (l.add? Signed32.zero) (u.add? s.neg))
      rw [Bounded.sub?_eq_add? hzero]
      rfl
    | _ => rfl

theorem shift_number {y : Number} (hb : Number.ofAtomic? b = some y) (a : Atomic) (sign : Int) :
    shift a b sign = none := by
  unfold shift
  split
  case h_6 => rfl
  all_goals cases hb

/-- A shift back is the shift by the opposite duration. -/
theorem shift_sub (h : Opposite c n) (a : Atomic) : shift a c (-1) = shift a n 1 := by
  cases h with
  | number hy hz => rw [shift_number hy, shift_number (ofAtomic?_toAtomic _)]
  | @months m k hk =>
    have hback : -1 * m.val = 1 * k.val := by
      rw [Bounded.val_of_neg? hk]
      omega
    cases a with
    | dateTime t zone =>
      show some (shifted (t.date.addMonths? (-1 * m.val)) _) =
        some (shifted (t.date.addMonths? (1 * k.val)) _)
      rw [hback]
    | date d zone =>
      show some (shifted (d.addMonths? (-1 * m.val)) _) =
        some (shifted (d.addMonths? (1 * k.val)) _)
      rw [hback]
    | _ => rfl
  | seconds s =>
    have hback : -1 * s.nanos = 1 * s.neg.nanos := by
      rw [Decimal.nanos_neg]
      omega
    cases a with
    | dateTime t zone =>
      show some (shifted (t.shift? (-1 * s.nanos)) _) =
        some (shifted (t.shift? (1 * s.neg.nanos)) _)
      rw [hback]
    | date d zone =>
      show some (shifted ((DateTime.startOf d).shift? (-1 * s.nanos)) _) =
        some (shifted ((DateTime.startOf d).shift? (1 * s.neg.nanos)) _)
      rw [hback]
    | time t zone =>
      show some (Except.ok (time (t.shift (-1 * s.nanos)) zone)) =
        some (Except.ok (time (t.shift (1 * s.neg.nanos)) zone))
      rw [hback]
    | _ => rfl

/-- What has an opposite is no date or time. -/
theorem Opposite.not_shifted (h : Opposite c n) (a : Atomic) (ctx : ValueContext) :
    between a c ctx = none ∧ shift n a 1 = none := by
  cases h with
  | @number c y z hy hz =>
    constructor
    · unfold between
      split
      case h_4 => rfl
      all_goals cases hy
    · cases z <;> rfl
  | months | seconds =>
    constructor
    · cases a <;> rfl
    · rfl

theorem temporalArithmetic_sub (h : Opposite c n) (a : Atomic) (ctx : ValueContext) :
    temporalArithmetic .sub a c ctx = temporalArithmetic .add a n ctx := by
  obtain ⟨hbetween, hshift⟩ := h.not_shifted a ctx
  show (shift a c (-1)).or (between a c ctx) = (shift a n 1).or (shift n a 1)
  rw [hbetween, hshift, shift_sub h]

/-- The three stages give alike for a difference and for the sum with the opposite. -/
theorem typedArithmetic_sub (h : Opposite c n) (a : Atomic) (ctx : ValueContext) :
    Coincide EqualOrNaN (typedArithmetic .sub a c ctx) (typedArithmetic .add a n ctx) := by
  by_cases hnumber : Number.ofAtomic? a = none ∨ Number.ofAtomic? c = none
  · have hopposite : Number.ofAtomic? a = none ∨ Number.ofAtomic? n = none :=
      hnumber.imp_right h.ofAtomic?_eq_none
    apply Coincide.others EqualOrNaN.refl hnumber hopposite
    · exact durationArithmetic_sub h
    · exact temporalArithmetic_sub h a ctx
    · intro r hr
      rw [temporalArithmetic_sub h] at hr
      exact Coincide.temporal EqualOrNaN.refl (.inl rfl) hr
  · obtain ⟨ha, hc⟩ := not_or.1 hnumber
    obtain ⟨x, ha⟩ := Option.ne_none_iff_exists'.1 ha
    cases h with
    | number hy hz =>
      rw [typedArithmetic_numbers ha hy, typedArithmetic_numbers ha (ofAtomic?_toAtomic _)]
      exact numericArithmetic_sub x hz
    | months | seconds => exact absurd rfl hc

/-- A difference is the sum with the opposite of the second operand, if there is one: both are the
    same value, where zeros are equal and NaN counts as equal to itself, or both are errors of one
    code. -/
theorem sub_eq_add_minus (h : minus b = .ok n) (a : Atomic) (ctx : ValueContext) :
    Coincide EqualOrNaN (arithmetic .sub a b ctx) (arithmetic .add a n ctx) := by
  obtain ⟨c, hb, hopposite⟩ := gives_minus b n h
  unfold arithmetic
  rw [hb, hopposite.typedOperand_eq]
  cases typedOperand a with
  | ok d => exact typedArithmetic_sub hopposite d ctx
  | error e => exact .error rfl

/-- A month before the last day of March is the last day of February. -/
theorem sub_eq_add_minus_last_day :
    let march : Date := ⟨2024, 3, 31, by decide, by decide, by decide⟩
    let february : Date := ⟨2024, 2, 29, by decide, by decide, by decide⟩
    let month : Atomic := .yearMonthDuration ⟨1, by decide, by decide⟩
    let monthBack : Atomic := .yearMonthDuration ⟨-1, by decide, by decide⟩
    minus month = .ok monthBack ∧
      arithmetic .sub (.date march none) month .standard = .ok (.date february none) ∧
      Coincide EqualOrNaN (.ok (.date february none))
        (arithmetic .add (.date march none) monthBack .standard) := by
  intro march february month monthBack
  have hminus : minus month = .ok monthBack := rfl
  have hsub : arithmetic .sub (.date march none) month .standard = .ok (.date february none) := by
    decide +kernel
  have hcoincide := sub_eq_add_minus hminus (.date march none) .standard
  rw [hsub] at hcoincide
  exact ⟨hminus, hsub, hcoincide⟩

end Atomic

end XPathData
