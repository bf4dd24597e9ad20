import XPathData.Atomic.Arithmetic
import XPathData.Proofs.Atomic.WellFormed

/-! # Values that calculations make

  A calculation casts texts and casts, negates and combines what it has made before. Operators
  make well-formed values of any operands, so all values of a calculation are well-formed. In
  particular the months and the seconds of a duration have one sign: an operator whose result
  would have two fails. The text of a duration shows its sign only once, and this is enough.

  * `Atomic.gives_arithmetic_wellFormed` — what the operators make
  * `Atomic.Combines`, `Atomic.arithmetic_durations` — sums and differences with a general duration
  * `Duration.signs_of_text` — the text of a duration shows both signs
  * `Calculation.run_wellFormed` — what calculations make
  * `Calculation.run_oneSign` — the signs of durations
-/

namespace XPathData

open DurationLiteral

/-! ### What operators make -/

/-- An error of the language is as good as any other failure. -/
theorem Gives.lift {α : Type} {p : α → Prop} {r : Except Error α} (h : Gives r p) :
    Gives (liftM r : Outcome α) p := by
  cases r with
  | ok a => exact Gives.ok (h a rfl)
  | error e => exact Gives.error _

namespace Atomic

theorem wellFormed_int (n : Signed64) : (int n).WellFormed := ⟨n.low_le, n.le_high⟩

theorem gives_integerArithmetic (op : ArithmeticOp) (x y : Signed64) :
    Gives (integerArithmetic op x y) WellFormed := by
  cases op with
  | add | sub | mul => exact Gives.map wellFormed_int
  | div => exact Gives.ite (fun _ => Gives.error _) fun _ => Gives.map fun _ => trivial
  | idiv | mod => exact Gives.ite (fun _ => Gives.error _) fun _ => Gives.map wellFormed_int

theorem gives_decimalArithmetic (op : ArithmeticOp) (x y : Decimal) :
    Gives (decimalArithmetic op x y) WellFormed := by
  cases op with
  | add | sub | mul => exact Gives.map fun _ => trivial
  | div | mod => exact Gives.ite (fun _ => Gives.error _) fun _ => Gives.map fun _ => trivial
  | idiv =>
    exact Gives.ite (fun _ => Gives.error _) fun _ => Gives.bind fun _ => Gives.map wellFormed_int

theorem gives_binaryArithmetic {wrap : Double → Atomic} (hwrap : ∀ x, (wrap x).WellFormed)
    (op : ArithmeticOp) (x y : Double) : Gives (binaryArithmetic wrap op x y) WellFormed := by
  cases op with
  | add | sub | mul | div | mod => exact Gives.ok (hwrap _)
  | idiv =>
    show Gives (binaryQuotient x y) WellFormed
    unfold binaryQuotient
    refine Gives.ite (fun _ => Gives.error _) fun _ =>
      Gives.ite (fun _ => Gives.error _) fun _ => ?_
    split
    · exact Gives.map wellFormed_int
    · exact Gives.error _

theorem gives_numericArithmetic (op : ArithmeticOp) (x y : Number) :
    Gives (numericArithmetic op x y) WellFormed := by
  unfold numericArithmetic
  split
  · exact gives_integerArithmetic op _ _
  · exact gives_decimalArithmetic op _ _
  · refine gives_binaryArithmetic ?_ op _ _
    intro z
    trivial
  · refine gives_binaryArithmetic ?_ op _ _
    intro z
    trivial

/-- Two signs that are not opposite are one sign. -/
theorem oneSign_iff {months : Int} {seconds : Decimal} :
    OneSign months seconds ↔ ¬ months.sign * seconds.sign < 0 := by
  unfold OneSign Decimal.sign
  rw [← Int.sign_mul, Int.sign_neg_iff, mul_neg_iff]
  omega

/-- Months and seconds with one sign make a duration. -/
theorem joinDuration_of_oneSign {months : Signed32} {seconds : Decimal}
    (h : OneSign months.val seconds) :
    joinDuration (some months) (some seconds) = .ok (duration months seconds) :=
  if_neg (oneSign_iff.1 h)

theorem joinDuration_of_mixed {months : Signed32} {seconds : Decimal}
    (h : ¬OneSign months.val seconds) :
    joinDuration (some months) (some seconds) = .error mixedSigns :=
  if_pos (not_not.1 (mt oneSign_iff.2 h))

theorem gives_joinDuration (months : Option Signed32) (seconds : Option Decimal) :
    Gives (joinDuration months seconds) WellFormed := by
  cases months with
  | none => exact Gives.error _
  | some m =>
    cases seconds with
    | none => exact Gives.error _
    | some s =>
      by_cases hsign : OneSign m.val s
      · rw [joinDuration_of_oneSign hsign]
        exact Gives.ok hsign
      · rw [joinDuration_of_mixed hsign]
        exact Gives.error _

theorem gives_scaleMonths (m : Signed32) (n : Number) (divide : Bool) :
    Gives (scaleMonths m n divide) WellFormed := by
  have hwhole (x : Double) : Gives (wholeMonths x) WellFormed := by
    unfold wholeMonths
    split
    · exact Gives.map fun _ => trivial
    · exact Gives.error _
  refine Gives.bind fun f => ?_
  split
  · exact Gives.ite (fun _ => Gives.error _) fun _ => hwhole _
  · exact Gives.ite (fun _ => Gives.error _) fun _ => hwhole _

theorem gives_scaleSeconds (s : Decimal) (n : Number) (divide : Bool) :
    Gives (scaleSeconds s n divide) WellFormed := by
  refine Gives.bind fun f => ?_
  split
  · refine Gives.ite (fun _ => Gives.error _) fun _ => Gives.ite (fun _ => Gives.ok ?_) fun _ => ?_
    · trivial
    · exact Gives.bind fun d => Gives.map fun _ => trivial
  · refine Gives.ite (fun _ => Gives.error _) fun _ => ?_
    exact Gives.bind fun d => Gives.map fun _ => trivial

theorem gives_durationRatio (x y : Decimal) : Gives (durationRatio x y) WellFormed :=
  Gives.ite (fun _ => Gives.error _) fun _ => Gives.map fun _ => trivial

theorem gives_generalDurations {op : ArithmeticOp} {a b : Atomic} {r : Except Error Atomic}
    (h : generalDurations op a b = some r) : Gives r WellFormed := by
  obtain ⟨t, -, h⟩ := Option.bind_eq_some_iff.1 h
  obtain ⟨c, -, h⟩ := Option.bind_eq_some_iff.1 h
  obtain ⟨d, -, h⟩ := Option.bind_eq_some_iff.1 h
  split at h
  · cases h
    exact gives_joinDuration _ _
  · cases h
    exact gives_joinDuration _ _
  · cases h

theorem gives_durationArithmetic {op : ArithmeticOp} {a b : Atomic} {r : Except Error Atomic}
    (h : durationArithmetic op a b = some r) : Gives r WellFormed := by
  unfold durationArithmetic at h
  -- Sums, ratios and multiples of months and of seconds, and what is left for general durations.
  split at h
  case h_1 | h_2 | h_4 | h_5 =>
    cases h
    exact Gives.map fun _ => trivial
  case h_3 | h_6 =>
    cases h
    exact gives_durationRatio _ _
  case h_7 | h_8 | h_9 =>
    obtain ⟨n, -, rfl⟩ := Option.map_eq_some_iff.1 h
    exact gives_scaleMonths _ _ _
  case h_10 | h_11 | h_12 =>
    obtain ⟨n, -, rfl⟩ := Option.map_eq_some_iff.1 h
    exact gives_scaleSeconds _ _ _
  case h_13 =>
    split at h
    · exact gives_generalDurations h
    · cases h

theorem gives_shift {a d : Atomic} {sign : Int} {r : Outcome Atomic}
    (h : shift a d sign = some r) : Gives r WellFormed := by
  have hshifted {α : Type} {wrap : α → Atomic} (hwrap : ∀ t, (wrap t).WellFormed)
      (t : Option α) : Gives (shifted t wrap) WellFormed := by
    cases t with
    | some t => exact Gives.ok (hwrap t)
    | none => exact Gives.error _
  unfold shift at h
  split at h
  case h_1 | h_2 | h_3 | h_4 =>
    cases h
    refine hshifted ?_ _
    intro t
    trivial
  case h_5 =>
    cases h
    refine Gives.ok ?_
    trivial
  case h_6 => cases h

theorem gives_between {a b : Atomic} {ctx : ValueContext} {r : Outcome Atomic}
    (h : between a b ctx = some r) : Gives r WellFormed := by
  have hdifference (s t : DateTime) (sZone tZone : Option Offset) :
      Gives (difference ctx s t sZone tZone) WellFormed := by
    refine Gives.bind fun s => Gives.bind fun t => ?_
    split
    · refine Gives.ok ?_
      trivial
    · exact Gives.error _
  unfold between at h
  split at h
  case h_1 | h_2 | h_3 =>
    cases h
    exact hdifference _ _ _ _
  case h_4 => cases h

theorem gives_temporalArithmetic {op : ArithmeticOp} {a b : Atomic} {ctx : ValueContext}
    {r : Outcome Atomic} (h : temporalArithmetic op a b ctx = some r) : Gives r WellFormed := by
  unfold temporalArithmetic at h
  split at h
  -- A plus has the duration on either side; a minus has it on the right, or no duration at all.
  · rcases Option.or_eq_some_iff.1 h with h | ⟨-, h⟩
    · exact gives_shift h
    · exact gives_shift h
  · rcases Option.or_eq_some_iff.1 h with h | ⟨-, h⟩
    · exact gives_shift h
    · exact gives_between h
  · cases h

theorem gives_typedArithmetic (op : ArithmeticOp) (a b : Atomic) (ctx : ValueContext) :
    Gives (typedArithmetic op a b ctx) WellFormed := by
  unfold typedArithmetic
  split
  · exact (gives_numericArithmetic op _ _).lift
  · split
    · next r hr => exact (gives_durationArithmetic hr).lift
    · cases hr : temporalArithmetic op a b ctx with
      | some r => exact gives_temporalArithmetic hr
      | none => exact Gives.error _

/-- Operators make well-formed values of any operands. -/
theorem gives_arithmetic_wellFormed (op : ArithmeticOp) (a b : Atomic) (ctx : ValueContext) :
    Gives (arithmetic op a b ctx) WellFormed :=
  Gives.bind fun a => Gives.bind fun b => gives_typedArithmetic op a b ctx

theorem gives_minus_wellFormed (a : Atomic) : Gives a.minus WellFormed := by
  refine Gives.bind fun a => ?_
  split
  case h_1 => exact Gives.map wellFormed_int
  case h_2 | h_3 | h_4 | h_6 =>
    refine Gives.ok ?_
    trivial
  case h_5 => exact Gives.map fun _ => trivial
  case h_7 => exact Gives.error _

/-! ### Sums with a general duration -/

section

variable {a b : Atomic} {m n : Signed32} {s t : Decimal}

/-- A value that counts as a general duration is one, or lacks the months or the seconds. -/
theorem of_promote?_duration (h : a.promote? .duration = some (duration m s)) :
    a = duration m s ∨ a = yearMonthDuration m ∧ s = .zero ∨ a = dayTimeDuration s ∧ m = .zero := by
  cases a with
  | duration m' s' =>
    cases h
    exact .inl rfl
  | yearMonthDuration m' =>
    cases h
    exact .inr (.inl ⟨rfl, rfl⟩)
  | dayTimeDuration s' =>
    cases h
    exact .inr (.inr ⟨rfl, rfl⟩)
  | integer k n =>
    -- An unsigned integer may count as a decimal, but no number counts as a duration.
    unfold promote? at h
    rw [if_neg nofun] at h
    cases hn : (Bounded.ofInt? n.val : Option Signed64) with
    | some i =>
      simp only [Number.ofAtomic?, hn] at h
      cases h
    | none =>
      simp only [Number.ofAtomic?, hn] at h
      cases h
  | _ => cases h

variable {op : ArithmeticOp} {months : Signed32} {seconds : Decimal}

/-- An operator combines the months and the seconds of two durations, one of them a general one,
    to these. -/
inductive Combines (a b : Atomic) (months : Signed32) (seconds : Decimal) : ArithmeticOp → Prop
  | add {m n : Signed32} {s t : Decimal} (left : a.promote? .duration = some (duration m s))
    (right : b.promote? .duration = some (duration n t))
    (general : a.type = .duration ∨ b.type = .duration) (sumOfMonths : m.add? n = some months)
    (sumOfSeconds : s.add? t = some seconds) : Combines a b months seconds .add
  | sub {m n : Signed32} {s t : Decimal} (left : a.promote? .duration = some (duration m s))
    (right : b.promote? .duration = some (duration n t))
    (general : a.type = .duration ∨ b.type = .duration)
    (differenceOfMonths : m.sub? n = some months)
    (differenceOfSeconds : s.sub? t = some seconds) : Combines a b months seconds .sub

/-- If one of two durations is a general one, months and seconds are combined apart. -/
theorem arithmetic_durations (ha : a.promote? .duration = some (duration m s))
    (hb : b.promote? .duration = some (duration n t))
    (hgeneral : a.type = .duration ∨ b.type = .duration) (ctx : ValueContext) :
    arithmetic .add a b ctx = liftM (joinDuration (m.add? n) (s.add? t)) ∧
      arithmetic .sub a b ctx = liftM (joinDuration (m.sub? n) (s.sub? t)) := by
  -- Of the nine pairs, the four without a general duration are not meant.
  rcases of_promote?_duration ha with rfl | ⟨rfl, rfl⟩ | ⟨rfl, rfl⟩ <;>
    rcases of_promote?_duration hb with rfl | ⟨rfl, rfl⟩ | ⟨rfl, rfl⟩ <;>
    first
    | exact ⟨rfl, rfl⟩
    | exact absurd hgeneral (by rintro (h | h) <;> cases h)

theorem Combines.arithmetic_eq (h : Combines a b months seconds op) (ctx : ValueContext) :
    arithmetic op a b ctx = liftM (joinDuration (some months) (some seconds)) := by
  cases h with
  | add left right general sumOfMonths sumOfSeconds =>
    rw [(arithmetic_durations left right general ctx).1, sumOfMonths, sumOfSeconds]
  | sub left right general differenceOfMonths differenceOfSeconds =>
    rw [(arithmetic_durations left right general ctx).2, differenceOfMonths, differenceOfSeconds]

end

end Atomic

/-! ### Signs in texts -/

namespace Duration

variable {S T : Decimal}

theorem shown_nonneg (h : 0 ≤ S.coefficient) : 0 ≤ shown S :=
  add_nonneg (Nat.cast_nonneg _) (parts_of_nonneg h).2

/-- Some seconds are shown where there are some. -/
theorem shown_abs_eq_zero_iff : shown S.abs = 0 ↔ S.coefficient = 0 := by
  rw [shown_eq_zero_iff S.abs_coefficient_nonneg, Decimal.value_abs, abs_eq_zero]
  simp [Decimal.value]

/-- The seconds that are shown have the sign of all of them. -/
theorem signedShown_neg_iff : signedShown S < 0 ↔ S.coefficient < 0 := by
  have hnonneg := shown_nonneg S.abs_coefficient_nonneg
  unfold signedShown
  split
  · next hneg =>
    have hshown : shown S.abs ≠ 0 := mt shown_abs_eq_zero_iff.1 hneg.ne
    exact iff_of_true (neg_lt_zero.2 (hnonneg.lt_of_ne' hshown)) hneg
  · next hpos => exact iff_of_false hnonneg.not_gt hpos

theorem signedShown_eq_zero_iff : signedShown S = 0 ↔ S.coefficient = 0 := by
  rw [← shown_abs_eq_zero_iff, signedShown]
  split
  · exact neg_eq_zero
  · exact Iff.rfl

theorem sign_eq_of_signedShown (h : signedShown S = signedShown T) : S.sign = T.sign := by
  have hneg : S.coefficient < 0 ↔ T.coefficient < 0 := by
    rw [← signedShown_neg_iff, h, signedShown_neg_iff]
  have hzero : S.coefficient = 0 ↔ T.coefficient = 0 := by
    rw [← signedShown_eq_zero_iff, h, signedShown_eq_zero_iff]
  unfold Decimal.sign
  rcases lt_trichotomy S.coefficient 0 with hS | hS | hS
  · rw [Int.sign_eq_neg_one_of_neg hS, Int.sign_eq_neg_one_of_neg (hneg.1 hS)]
  · rw [hS, hzero.1 hS]
  · rw [Int.sign_eq_one_of_pos hS, Int.sign_eq_one_of_pos (by omega)]

/-- A minus stands before all components, if one of the two parts is negative. -/
theorem head?_text (months : Int) (S : Decimal) :
    (text months S).toList.head? = some '-' ↔ months < 0 ∨ S.coefficient < 0 := by
  unfold text write
  dsimp only
  rw [String.toList_ofList]
  split
  · next hneg => exact iff_of_true rfl hneg
  · next hpos => exact iff_of_false (by simp) hpos

/-- The text of a duration shows the months and the sign of the seconds. -/
theorem signs_of_text {m n : Signed32} (hm : OneSign m.val S) (hn : OneSign n.val T)
    (h : text m.val S = text n.val T) : m = n ∧ S.sign = T.sign := by
  -- Both texts are read as the same literal, of which each has the months and shown seconds.
  have hsuitsS : Atomic.Suits .duration m.val S := ⟨hm, nofun, nofun⟩
  have hsuitsT : Atomic.Suits .duration n.val T := ⟨hn, nofun, nofun⟩
  obtain ⟨S', hS, -, hshownS⟩ := Atomic.exists_cast_text rfl hsuitsS .standard
  obtain ⟨T', hT, -, hshownT⟩ := Atomic.exists_cast_text rfl hsuitsT .standard
  have hsame : Atomic.duration m S' = .duration n T' := by
    have htext : (Atomic.duration m S).text = (Atomic.duration n T).text := h
    exact Except.ok.inj (hS.symm.trans (htext ▸ hT))
  cases hsame
  exact ⟨rfl, sign_eq_of_signedShown (hshownS.symm.trans hshownT)⟩

end Duration

/-! ### Calculations -/

/-- What can be done next, with the values that were made so far named by their places. -/
inductive Operation where
  /-- Casts a text. -/
  | read (text : String) (target : AtomicType) (ctx : ValueContext)
  /-- Casts a value. -/
  | cast (k : Nat) (target : AtomicType) (ctx : ValueContext)
  | minus (k : Nat)
  | arithmetic (op : ArithmeticOp) (k l : Nat) (ctx : ValueContext)

namespace Calculation

/-- What an operation gives, if its operands are there. -/
def outcome? (values : List Atomic) : Operation → Option (Outcome Atomic)
  | .read text target ctx => some (liftM ((Atomic.str text).cast target ctx))
  | .cast k target ctx => values[k]?.map fun a => liftM (a.cast target ctx)
  | .minus k => values[k]?.map fun a => liftM a.minus
  | .arithmetic op k l ctx => do return (← values[k]?).arithmetic op (← values[l]?) ctx

/-- Keeps what an operation gives; one that fails leaves nothing behind. -/
def perform (values : List Atomic) (o : Operation) : List Atomic :=
  match outcome? values o with
  | some (.ok a) => values ++ [a]
  | _ => values

/-- The values that some operations make, one after the other. -/
def run (operations : List Operation) : List Atomic := operations.foldl perform []

variable {values : List Atomic}

/-- An operation on well-formed values makes well-formed values. -/
theorem gives_outcome?_wellFormed (hvalues : ∀ a ∈ values, a.WellFormed) {o : Operation}
    {r : Outcome Atomic} (h : outcome? values o = some r) : Gives r Atomic.WellFormed := by
  cases o with
  | read text target ctx =>
    cases h
    have hformed : (Atomic.str text).WellFormed := trivial
    exact (Atomic.gives_cast_wellFormed _ target ctx fun _ => hformed).lift
  | cast k target ctx =>
    obtain ⟨a, ha, rfl⟩ := Option.map_eq_some_iff.1 h
    have hformed := hvalues a (List.mem_of_getElem? ha)
    exact (Atomic.gives_cast_wellFormed a target ctx fun _ => hformed).lift
  | minus k =>
    obtain ⟨a, -, rfl⟩ := Option.map_eq_some_iff.1 h
    exact (Atomic.gives_minus_wellFormed a).lift
  | arithmetic op k l ctx =>
    obtain ⟨a, -, h⟩ := Option.bind_eq_some_iff.1 h
    obtain ⟨b, -, h⟩ := Option.bind_eq_some_iff.1 h
    cases h
    exact Atomic.gives_arithmetic_wellFormed op a b ctx

theorem perform_wellFormed (hvalues : ∀ a ∈ values, a.WellFormed) (o : Operation) :
    ∀ a ∈ perform values o, a.WellFormed := by
  intro a ha
  unfold perform at ha
  split at ha
  · next b hb =>
    rcases List.mem_append.1 ha with ha | ha
    · exact hvalues a ha
    · rw [List.mem_singleton.1 ha]
      exact gives_outcome?_wellFormed hvalues hb b rfl
  · exact hvalues a ha

/-- All values of a calculation are well-formed. -/
theorem run_wellFormed (operations : List Operation) :
    ∀ a ∈ run operations, a.WellFormed := by
  unfold run
  have hnone : ∀ a ∈ ([] : List Atomic), a.WellFormed := by simp
  -- The values that are there before the remaining operations are the invariant.
  generalize ([] : List Atomic) = values at hnone
  induction operations generalizing values with
  | nil => exact hnone
  | cons o operations ih => exact ih _ (perform_wellFormed hnone o)

/-- The months and the seconds of every duration of a calculation have one sign, which stands before
    the text. An operator that would make two signs fails with the error of a duration out of range;
    all other months and seconds are combined. So a text shows the months of a duration and both
    signs, though it writes only one. -/
theorem run_oneSign (operations : List Operation) :
    (∀ months seconds, .duration months seconds ∈ run operations →
      OneSign months.val seconds ∧
        ((Atomic.duration months seconds).text.toList.head? = some '-' ↔
          months.val < 0 ∨ seconds.coefficient < 0)) ∧
    (∀ k l op ctx a b months seconds, (run operations)[k]? = some a →
      (run operations)[l]? = some b → Atomic.Combines a b months seconds op →
      let outcome := outcome? (run operations) (.arithmetic op k l ctx)
      (OneSign months.val seconds → outcome = some (.ok (.duration months seconds))) ∧
        (¬OneSign months.val seconds →
          ∃ e, outcome = some (.error (.error e)) ∧ e.code = ErrorCode.durationOverflow.name)) ∧
    (∀ others m n s t, .duration m s ∈ run operations → .duration n t ∈ run others →
      (Atomic.duration m s).text = (Atomic.duration n t).text → m = n ∧ s.sign = t.sign) := by
  refine ⟨?_, ?_, ?_⟩
  · intro months seconds hmem
    exact ⟨run_wellFormed operations _ hmem, Duration.head?_text months.val seconds⟩
  · intro k l op ctx a b months seconds ha hb hcombines outcome
    have houtcome :
        outcome = some (liftM (Atomic.joinDuration (some months) (some seconds))) := by
      simp only [outcome, outcome?, ha, hb, Option.bind_eq_bind, Option.bind_some, pure,
        hcombines.arithmetic_eq ctx]
    constructor
    · intro hsign
      rw [houtcome, Atomic.joinDuration_of_oneSign hsign]
      rfl
    · intro hsign
      rw [houtcome, Atomic.joinDuration_of_mixed hsign]
      exact ⟨Atomic.mixedSigns, rfl, rfl⟩
  · intro others m n s t hs ht htext
    have hm : OneSign m.val s := run_wellFormed operations _ hs
    have hn : OneSign n.val t := run_wellFormed others _ ht
    exact Duration.signs_of_text hm hn htext

theorem run_oneSign_month_and_second :
    let operations := [Operation.read "P1MT1S" .duration .standard,
      .read "P2M" .yearMonthDuration .standard, .arithmetic .sub 0 1 .standard,
      .arithmetic .add 0 1 .standard]
    let others := [Operation.read "PT1.0S" .dayTimeDuration .standard,
      .read "P1M" .duration .standard, .arithmetic .add 0 1 .standard]
    let oneMonth : Signed32 := ⟨1, by decide, by decide⟩
    let twoMonths : Signed32 := ⟨2, by decide, by decide⟩
    let threeMonths : Signed32 := ⟨3, by decide, by decide⟩
    let lessMonths : Signed32 := ⟨-1, by decide, by decide⟩
    let second : Decimal := ⟨1, 0, by decide, by decide⟩
    let tenTenths : Decimal := ⟨10, 1, by decide, by decide⟩
    let values : List Atomic := [.duration oneMonth second, .yearMonthDuration twoMonths,
      .duration threeMonths second]
    run operations = values ∧ .duration oneMonth tenTenths ∈ run others ∧
      Atomic.Combines values[0] values[1] lessMonths second .sub ∧
      OneSign threeMonths.val second ∧
      ((Atomic.duration threeMonths second).text.toList.head? = some '-' ↔
        threeMonths.val < 0 ∨ second.coefficient < 0) ∧
      ¬OneSign lessMonths.val second ∧
      (∃ e, outcome? (run operations) (.arithmetic .sub 0 1 .standard) =
        some (.error (.error e)) ∧ e.code = ErrorCode.durationOverflow.name) ∧
      oneMonth = oneMonth ∧ second.sign = tenTenths.sign := by
  intro operations others oneMonth twoMonths threeMonths lessMonths second tenTenths values
  have hrun : run operations = values := by decide +kernel
  have hothers : .duration oneMonth tenTenths ∈ run others := by decide +kernel
  have hcombines : Atomic.Combines values[0] values[1] lessMonths second .sub := by
    refine .sub rfl rfl (.inl rfl) ?_ ?_ <;> decide +kernel
  have hmixed : ¬OneSign lessMonths.val second := by
    simp [OneSign, lessMonths, second]
  obtain ⟨hsign, hfails, htext⟩ := run_oneSign operations
  have hplaces : (run operations)[0]? = some values[0] ∧ (run operations)[1]? = some values[1] := by
    rw [hrun]
    exact ⟨rfl, rfl⟩
  obtain ⟨hthree, hminus⟩ := hsign threeMonths second (by simp [hrun, values])
  refine ⟨hrun, hothers, hcombines, hthree, hminus, hmixed, ?_, ?_⟩
  · exact (hfails 0 1 .sub .standard _ _ _ _ hplaces.1 hplaces.2 hcombines).2 hmixed
  · exact htext others _ _ _ _ (by simp [hrun, values]) hothers (by decide +kernel)

end Calculation

end XPathData
