import XPathData.Proofs.Atomic.Calculation
import XPathData.Proofs.Atomic.Exchange

/-! # Sums and products with the operands exchanged

  A sum or a product is looked up in three stages, and each stage tries the operands in order. The
  result does not depend on the order: numbers meet in the same representation, where the operation
  is symmetric, a duration is scaled from either side, and a date or time takes a duration from
  either side but is none itself. Only the message for operands without an operator names them in
  their order, so outcomes are compared by the codes of their errors.

  * `Atomic.numericArithmetic_swap`, `Atomic.durationArithmetic_swap`,
    `Atomic.temporalArithmetic_swap` — the three stages
  * `Atomic.Coincide` — outcomes that are alike
  * `Atomic.arithmetic_swap` — sums and products of any two values
-/

namespace XPathData

/-- The operands of a sum or a product may be exchanged. -/
def ArithmeticOp.Commutes (op : ArithmeticOp) : Prop := op = add ∨ op = mul

/-! ### Operations on numbers -/

namespace Bounded

variable {low high : Int}

theorem add?_comm (a b : Bounded low high) : a.add? b = b.add? a :=
  congrArg ofInt? (Int.add_comm a.val b.val)

theorem mul?_comm (a b : Bounded low high) : a.mul? b = b.mul? a :=
  congrArg ofInt? (Int.mul_comm a.val b.val)

end Bounded

namespace Decimal

theorem add?_comm (a b : Decimal) : a.add? b = b.add? a := by
  simp only [add?]
  rw [Nat.max_comm, Int.add_comm]

theorem mul?_comm (a b : Decimal) : a.mul? b = b.mul? a := by
  unfold mul?
  rw [Int.mul_comm, Nat.add_comm]

end Decimal

namespace Binary

variable {f : BinaryFormat}

theorem add_comm (x y : Binary f) : x.add y = y.add x := by
  cases x with
  | nan => cases y <;> rfl
  | infinity s =>
    cases y with
    | nan | finite => rfl
    | infinity t => cases s <;> cases t <;> rfl
  | finite s m e =>
    cases y with
    | nan | infinity => rfl
    | finite t n k =>
      simp only [add]
      rw [Int.min_comm, Int.add_comm, Bool.and_comm]

theorem mul_comm (x y : Binary f) : x.mul y = y.mul x := by
  cases x with
  | nan => cases y <;> rfl
  | infinity s =>
    cases y with
    | nan => rfl
    | infinity t | finite t =>
      simp only [mul]
      rw [bne_comm]
  | finite s m e =>
    cases y with
    | nan => rfl
    | infinity t =>
      simp only [mul]
      rw [bne_comm]
    | finite t n k =>
      simp only [mul]
      rw [bne_comm, Nat.mul_comm, Int.add_comm]

end Binary

theorem AtomicType.common?_comm (s t : AtomicType) : s.common? t = t.common? s := by
  by_cases heq : s = t
  · rw [heq]
  · unfold common?
    rw [if_neg heq, if_neg (Ne.symm heq), Bool.and_comm, Bool.and_comm (x := s.isDuration)]
    cases s.rank? <;> cases t.rank? <;> simp [Nat.max_comm, or_comm]

namespace Atomic

variable {op : ArithmeticOp} {a b : Atomic} {ctx : ValueContext}

/-! ### Numbers -/

theorem integerArithmetic_comm (hop : op.Commutes) (m n : Signed64) :
    integerArithmetic op m n = integerArithmetic op n m := by
  rcases hop with rfl | rfl
  · simp only [integerArithmetic]
    rw [Bounded.add?_comm]
  · simp only [integerArithmetic]
    rw [Bounded.mul?_comm]

theorem decimalArithmetic_comm (hop : op.Commutes) (d e : Decimal) :
    decimalArithmetic op d e = decimalArithmetic op e d := by
  rcases hop with rfl | rfl
  · simp only [decimalArithmetic]
    rw [Decimal.add?_comm]
  · simp only [decimalArithmetic]
    rw [Decimal.mul?_comm]

theorem binaryArithmetic_comm (hop : op.Commutes) (wrap : Double → Atomic) (x y : Double) :
    binaryArithmetic wrap op x y = binaryArithmetic wrap op y x := by
  rcases hop with rfl | rfl
  · simp only [binaryArithmetic]
    rw [Binary.add_comm]
  · simp only [binaryArithmetic]
    rw [Binary.mul_comm]

/-- Exchanged numbers meet in the same representation. -/
theorem numericArithmetic_swap (hop : op.Commutes) (x y : Number) :
    numericArithmetic op y x = numericArithmetic op x y := by
  unfold numericArithmetic
  rw [Number.unify_swap]
  cases Number.unify x y with
  | int m n => exact integerArithmetic_comm hop n m
  | dec d e => exact decimalArithmetic_comm hop e d
  | single x y => exact binaryArithmetic_comm hop _ _ _
  | double x y => exact binaryArithmetic_comm hop _ _ _

/-! ### Durations -/

theorem joinDuration_comm (m n : Signed32) (s t : Decimal) :
    joinDuration (m.add? n) (s.add? t) = joinDuration (n.add? m) (t.add? s) := by
  rw [Bounded.add?_comm, Decimal.add?_comm]

/-- Two durations that count as general ones have their months and their seconds combined apart. -/
theorem generalDurations_eq_some_iff {r : Except Error Atomic} :
    generalDurations op a b = some r ↔
      ∃ t m s n u, a.type.common? b.type = some t ∧ a.promote? t = some (duration m s) ∧
        b.promote? t = some (duration n u) ∧
        (op = .add ∧ joinDuration (m.add? n) (s.add? u) = r ∨
          op = .sub ∧ joinDuration (m.sub? n) (s.sub? u) = r) := by
  unfold generalDurations
  constructor
  · intro h
    obtain ⟨t, ht, h⟩ := Option.bind_eq_some_iff.1 h
    obtain ⟨c, hc, h⟩ := Option.bind_eq_some_iff.1 h
    obtain ⟨d, hd, h⟩ := Option.bind_eq_some_iff.1 h
    split at h
    · exact ⟨t, _, _, _, _, ht, hc, hd, .inl ⟨rfl, Option.some.inj h⟩⟩
    · exact ⟨t, _, _, _, _, ht, hc, hd, .inr ⟨rfl, Option.some.inj h⟩⟩
    · cases h
  · rintro ⟨t, m, s, n, u, ht, hc, hd, ⟨rfl, rfl⟩ | ⟨rfl, rfl⟩⟩
    · rw [ht, Option.bind_eq_bind, Option.bind_some, hc, hd]
      rfl
    · rw [ht, Option.bind_eq_bind, Option.bind_some, hc, hd]
      rfl

theorem generalDurations_exchange (hop : op.Commutes) {r : Except Error Atomic}
    (h : generalDurations op a b = some r) : generalDurations op b a = some r := by
  rw [generalDurations_eq_some_iff] at *
  obtain ⟨t, m, s, n, u, ht, ha, hb, ⟨rfl, hr⟩ | ⟨rfl, -⟩⟩ := h
  · rw [AtomicType.common?_comm] at ht
    rw [joinDuration_comm] at hr
    exact ⟨t, n, u, m, s, ht, hb, ha, .inl ⟨rfl, hr⟩⟩
  · rcases hop with hop | hop <;> cases hop

/-- Months and seconds are scaled by a number on either side. -/
theorem durationArithmetic_scaled {x : Number} (hb : Number.ofAtomic? b = some x)
    (hop : op = .mul) :
    (∀ m, durationArithmetic op (yearMonthDuration m) b = some (scaleMonths m x false) ∧
      durationArithmetic op b (yearMonthDuration m) = some (scaleMonths m x false)) ∧
    ∀ s, durationArithmetic op (dayTimeDuration s) b = some (scaleSeconds s x false) ∧
      durationArithmetic op b (dayTimeDuration s) = some (scaleSeconds s x false) := by
  subst hop
  have hmonths (m : Signed32) := congrArg (Option.map (scaleMonths m · false)) hb
  have hseconds (s : Decimal) := congrArg (Option.map (scaleSeconds s · false)) hb
  cases b with
  | integer | decimal | float | double =>
    exact ⟨fun m => ⟨hmonths m, hmonths m⟩, fun s => ⟨hseconds s, hseconds s⟩⟩
  | _ => cases hb

theorem exists_of_isDuration (h : a.type.isDuration = true) :
    (∃ m s, a = duration m s) ∨ (∃ m, a = yearMonthDuration m) ∨ ∃ s, a = dayTimeDuration s := by
  cases a with
  | duration m s => exact .inl ⟨m, s, rfl⟩
  | yearMonthDuration m => exact .inr (.inl ⟨m, rfl⟩)
  | dayTimeDuration s => exact .inr (.inr ⟨s, rfl⟩)
  | _ => cases h

/-- A duration is added to durations and scaled by numbers on either side. -/
theorem durationArithmetic_exchange (hop : op.Commutes) {r : Except Error Atomic}
    (h : durationArithmetic op a b = some r) : durationArithmetic op b a = some r := by
  unfold durationArithmetic at h
  split at h
  case h_1 m n =>
    rw [Bounded.add?_comm] at h
    exact h
  case h_4 s t =>
    rw [Decimal.add?_comm] at h
    exact h
  case h_2 | h_3 | h_5 | h_6 | h_9 | h_12 => rcases hop with hop | hop <;> cases hop
  -- What is scaled by itself is no duration, so the number is found on the other side too.
  case h_7 m =>
    obtain ⟨x, hx, rfl⟩ := Option.map_eq_some_iff.1 h
    exact ((durationArithmetic_scaled hx rfl).1 m).2
  case h_8 m _ =>
    obtain ⟨x, hx, rfl⟩ := Option.map_eq_some_iff.1 h
    exact ((durationArithmetic_scaled hx rfl).1 m).1
  case h_10 s _ =>
    obtain ⟨x, hx, rfl⟩ := Option.map_eq_some_iff.1 h
    exact ((durationArithmetic_scaled hx rfl).2 s).2
  case h_11 s _ _ =>
    obtain ⟨x, hx, rfl⟩ := Option.map_eq_some_iff.1 h
    exact ((durationArithmetic_scaled hx rfl).2 s).1
  case h_13 hmonths _ _ hseconds _ _ =>
    obtain ⟨hdurations, h⟩ := Option.ite_none_right_eq_some.1 h
    obtain ⟨ha, hb⟩ := Bool.and_eq_true_iff.1 hdurations
    have hexchanged := generalDurations_exchange hop h
    rcases hop with rfl | rfl
    · -- Two durations of one kind have been added before, all other pairs are general either way.
      rcases exists_of_isDuration ha with ⟨m, s, rfl⟩ | ⟨m, rfl⟩ | ⟨s, rfl⟩ <;>
        rcases exists_of_isDuration hb with ⟨n, t, rfl⟩ | ⟨n, rfl⟩ | ⟨t, rfl⟩ <;>
        first
        | exact hexchanged
        | exact absurd rfl (hmonths m n rfl rfl)
        | exact absurd rfl (hseconds s t rfl rfl)
    · obtain ⟨_, _, _, _, _, -, -, -, ⟨hmul, -⟩ | ⟨hmul, -⟩⟩ := generalDurations_eq_some_iff.1 h <;>
        cases hmul

theorem durationArithmetic_swap (hop : op.Commutes) (a b : Atomic) :
    durationArithmetic op b a = durationArithmetic op a b := by
  apply Option.ext
  intro r
  constructor
  · exact durationArithmetic_exchange hop
  · exact durationArithmetic_exchange hop

/-! ### Dates and times -/

/-- What is shifted is no duration, so two values can be taken in one way only. -/
theorem shift_eq_none_or (a b : Atomic) (sign : Int) :
    shift a b sign = none ∨ shift b a sign = none := by
  cases a with
  | dateTime | date | time =>
    right
    cases b <;> rfl
  | _ => exact .inl rfl

theorem temporalArithmetic_swap (hop : op.Commutes) (a b : Atomic) (ctx : ValueContext) :
    temporalArithmetic op b a ctx = temporalArithmetic op a b ctx := by
  rcases hop with rfl | rfl
  · show (shift b a 1).or (shift a b 1) = (shift a b 1).or (shift b a 1)
    rcases shift_eq_none_or a b 1 with h | h
    · rw [h, Option.none_or, Option.or_none]
    · rw [h, Option.none_or, Option.or_none]
  · rfl

/-! ### Outcomes -/

/-- Two outcomes are alike: both are values, and these are related, or both are errors of one code.
    Leaving the calendar is neither. -/
inductive Coincide (R : Atomic → Atomic → Prop) : Outcome Atomic → Outcome Atomic → Prop
  | ok {v w : Atomic} (related : R v w) : Coincide R (.ok v) (.ok w)
  | error {e f : Error} (code : e.code = f.code) :
    Coincide R (.error (.error e)) (.error (.error f))

variable {R : Atomic → Atomic → Prop}

/-- An outcome within the language is like itself. -/
theorem Coincide.lift (hR : ∀ v, R v v) (r : Except Error Atomic) :
    Coincide R (liftM r) (liftM r) := by
  cases r with
  | ok v => exact .ok (hR v)
  | error e => exact .error rfl

/-- A shift leaves the calendar with an error of the language. -/
theorem Coincide.shift (hR : ∀ v, R v v) {sign : Int} {r : Outcome Atomic}
    (h : shift a b sign = some r) : Coincide R r r := by
  have hshifted {α : Type} (t : Option α) (wrap : α → Atomic) :
      Coincide R (shifted t wrap) (shifted t wrap) := by
    cases t with
    | some t => exact .ok (hR _)
    | none => exact .error rfl
  unfold Atomic.shift at h
  -- Dates and date-times may leave the calendar; the time of day goes round the clock.
  split at h
  case h_1 | h_2 | h_3 | h_4 =>
    cases h
    exact hshifted _ _
  case h_5 =>
    cases h
    exact .ok (hR _)
  case h_6 => cases h

/-- So does a sum of a date or time and a duration. -/
theorem Coincide.temporal (hR : ∀ v, R v v) (hop : op.Commutes) {r : Outcome Atomic}
    (h : temporalArithmetic op a b ctx = some r) : Coincide R r r := by
  rcases hop with rfl | rfl
  · rcases Option.or_eq_some_iff.1 h with h | ⟨-, h⟩
    · exact Coincide.shift hR h
    · exact Coincide.shift hR h
  · cases h

/-! ### The three stages -/

theorem typedArithmetic_numbers {x y : Number} (ha : Number.ofAtomic? a = some x)
    (hb : Number.ofAtomic? b = some y) :
    typedArithmetic op a b ctx = liftM (numericArithmetic op x y) := by
  unfold typedArithmetic
  rw [ha, hb]

/-- If one operand is no number, there may be an operator for durations or for times. -/
theorem typedArithmetic_others (h : Number.ofAtomic? a = none ∨ Number.ofAtomic? b = none) :
    typedArithmetic op a b ctx =
      (((durationArithmetic op a b).map liftM).or (temporalArithmetic op a b ctx)).getD
        (.error (.error (.undefinedOperator op.symbol a.type.text b.type.text))) := by
  unfold typedArithmetic
  cases ha : Number.ofAtomic? a with
  | none => cases Number.ofAtomic? b <;> cases durationArithmetic op a b <;> rfl
  | some x =>
    cases hb : Number.ofAtomic? b with
    | none => cases durationArithmetic op a b <;> rfl
    | some y =>
      rcases h with h | h
      · cases ha.symm.trans h
      · cases hb.symm.trans h

/-- Outcomes beyond numbers are alike where the same is found for both, or nothing for either. -/
theorem Coincide.others {op' : ArithmeticOp} {a' b' : Atomic} (hR : ∀ v, R v v)
    (h : Number.ofAtomic? a = none ∨ Number.ofAtomic? b = none)
    (h' : Number.ofAtomic? a' = none ∨ Number.ofAtomic? b' = none)
    (hduration : durationArithmetic op a b = durationArithmetic op' a' b')
    (htemporal : temporalArithmetic op a b ctx = temporalArithmetic op' a' b' ctx)
    (hagree : ∀ r, temporalArithmetic op a b ctx = some r → Coincide R r r) :
    Coincide R (typedArithmetic op a b ctx) (typedArithmetic op' a' b' ctx) := by
  rw [typedArithmetic_others h, typedArithmetic_others h', ← hduration, ← htemporal]
  cases durationArithmetic op a b with
  | some r => exact Coincide.lift hR r
  | none =>
    cases hr : temporalArithmetic op a b ctx with
    | some r => exact hagree r hr
    | none => exact .error rfl

theorem typedArithmetic_swap (hop : op.Commutes) (a b : Atomic) (ctx : ValueContext) :
    Coincide (· = ·) (typedArithmetic op a b ctx) (typedArithmetic op b a ctx) := by
  have hrefl : ∀ v : Atomic, v = v := fun _ => rfl
  by_cases h : Number.ofAtomic? a = none ∨ Number.ofAtomic? b = none
  · apply Coincide.others hrefl h h.symm
    · exact durationArithmetic_swap hop b a
    · exact temporalArithmetic_swap hop b a ctx
    · intro r hr
      exact Coincide.temporal hrefl hop hr
  · obtain ⟨ha, hb⟩ := not_or.1 h
    obtain ⟨x, ha⟩ := Option.ne_none_iff_exists'.1 ha
    obtain ⟨y, hb⟩ := Option.ne_none_iff_exists'.1 hb
    rw [typedArithmetic_numbers ha hb, typedArithmetic_numbers hb ha, numericArithmetic_swap hop]
    exact Coincide.lift hrefl _

/-- An untyped operand that is no number is reported with one code. -/
theorem code_of_typedOperand {e : Error} (h : typedOperand a = .error e) :
    e.code = ErrorCode.invalidValue.name := by
  unfold typedOperand at h
  split at h
  · next s =>
    cases hs : readDouble? s with
    | some x =>
      rw [hs] at h
      cases h
    | none =>
      rw [hs] at h
      cases h
      rfl
  · cases h

theorem arithmetic_exchange (hop : op.Commutes) (a b : Atomic) (ctx : ValueContext) :
    Coincide (· = ·) (arithmetic op a b ctx) (arithmetic op b a ctx) := by
  unfold arithmetic
  cases ha : typedOperand a with
  | ok c =>
    cases hb : typedOperand b with
    | ok d => exact typedArithmetic_swap hop c d ctx
    | error e => exact .error rfl
  | error e =>
    -- Two faulty operands are reported in different order, with different messages.
    cases hb : typedOperand b with
    | ok d => exact .error rfl
    | error f => exact .error ((code_of_typedOperand ha).trans (code_of_typedOperand hb).symm)

/-- Sums and products do not depend on the order of the operands: the results are the same values,
    NaN included, or errors of one code. -/
theorem arithmetic_swap (a b : Atomic) (ctx : ValueContext) :
    Coincide (· = ·) (arithmetic .add a b ctx) (arithmetic .add b a ctx) ∧
      Coincide (· = ·) (arithmetic .mul a b ctx) (arithmetic .mul b a ctx) :=
  ⟨arithmetic_exchange (.inl rfl) a b ctx, arithmetic_exchange (.inr rfl) a b ctx⟩

end Atomic

end XPathData
