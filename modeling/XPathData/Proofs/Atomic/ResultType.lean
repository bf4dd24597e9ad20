import XPathData.Proofs.Atomic.Calculation
import XPathData.Proofs.Atomic.IntegerArithmetic
import XPathData.Proofs.Atomic.Upcast

/-! # Promotion and the types of results

  The tower of numeric types is there three times: as the ranks of types, as the representations
  of values and as the promotion of a value to a type. They agree on every value, except that an
  unsigned integer beyond the signed words is represented as a decimal, though it is of an integer
  type. So the common type of two numbers is the type that both are promoted to and the type of
  what the operators make of them, and where it is `integer`, such an integer makes it a decimal.

  * `Number.rank`, `Number.rank_unify` — the tower of representations
  * `Atomic.gives_numericArithmetic_type` — the types of results
  * `Atomic.exists_number` — the representation of a value
  * `Atomic.exists_promoted` — promotion to the types of higher or equal rank
  * `Atomic.promotion_agrees` — the three towers on two values
-/

namespace XPathData

/-! ### Representations -/

namespace Number

/-- The place of a representation among the four. -/
def rank : Number → Nat
  | int _ => 0
  | dec _ => 1
  | single _ => 2
  | double _ => 3

/-- The place of a common representation. -/
def Pair.rank : Pair → Nat
  | int _ _ => 0
  | dec _ _ => 1
  | single _ _ => 2
  | double _ _ => 3

/-- Two numbers meet in the higher representation. -/
theorem rank_unify (x y : Number) : (unify x y).rank = max x.rank y.rank := by
  cases x <;> cases y <;> rfl

theorem type_toAtomic (x : Number) : x.toAtomic.type = .ofNumericRank x.rank := by
  cases x <;> rfl

/-- An exact number is promoted to a decimal of its value. -/
theorem toDecimal?_exact {x : Number} {d : Decimal} (h : x.exactDecimal? = some d) :
    x.toDecimal? = some d := by
  cases x with
  | int n | dec e => exact h
  | single y | double y => cases h

theorem exactValue?_toAtomic {x : Number} {d : Decimal} (h : x.exactDecimal? = some d) :
    x.toAtomic.exactValue? = some d.value := by
  cases x with
  | int n =>
    cases h
    rw [Decimal.value_ofSigned64]
    rfl
  | dec e =>
    cases h
    rfl
  | single y | double y => cases h

end Number

/-! ### Types of results -/

/-- The type of what an operator makes of two numbers whose common type is `t`. -/
def ArithmeticOp.resultType (op : ArithmeticOp) (t : AtomicType) : AtomicType :=
  match op with
  | .add | .sub | .mul | .mod => t
  | .div => if t = .integer .integer then .decimal else t
  | .idiv => .integer .integer

namespace Atomic

variable {a b c : Atomic} {x y : Number} {op : ArithmeticOp} {r s : Nat}

theorem gives_integerArithmetic_type (op : ArithmeticOp) (m n : Signed64) :
    Gives (integerArithmetic op m n) fun v => v.type = op.resultType (.integer .integer) := by
  cases op with
  | add | sub | mul => exact Gives.map fun _ => rfl
  | div | idiv | mod => exact Gives.ite (fun _ => Gives.error _) fun _ => Gives.map fun _ => rfl

theorem gives_decimalArithmetic_type (op : ArithmeticOp) (d e : Decimal) :
    Gives (decimalArithmetic op d e) fun v => v.type = op.resultType .decimal := by
  cases op with
  | add | sub | mul => exact Gives.map fun _ => rfl
  | div | mod => exact Gives.ite (fun _ => Gives.error _) fun _ => Gives.map fun _ => rfl
  | idiv =>
    exact Gives.ite (fun _ => Gives.error _) fun _ => Gives.bind fun _ => Gives.map fun _ => rfl

theorem gives_binaryArithmetic_type {wrap : Double → Atomic} {t : AtomicType}
    (hwrap : ∀ z, (wrap z).type = t) (ht : t ≠ .integer .integer) (op : ArithmeticOp)
    (x y : Double) : Gives (binaryArithmetic wrap op x y) fun v => v.type = op.resultType t := by
  cases op with
  | add | sub | mul | mod => exact Gives.ok (hwrap _)
  | div =>
    apply Gives.ok
    rw [ArithmeticOp.resultType, if_neg ht]
    exact hwrap _
  | idiv =>
    show Gives (binaryQuotient x y) _
    unfold binaryQuotient
    refine Gives.ite (fun _ => Gives.error _) fun _ =>
      Gives.ite (fun _ => Gives.error _) fun _ => ?_
    split
    · exact Gives.map fun _ => rfl
    · exact Gives.error _

/-- The type of a result is that of the higher representation, but for the quotients. -/
theorem gives_numericArithmetic_type (op : ArithmeticOp) (x y : Number) :
    Gives (numericArithmetic op x y) fun v =>
      v.type = op.resultType (.ofNumericRank (max x.rank y.rank)) := by
  rw [← Number.rank_unify]
  unfold numericArithmetic
  cases Number.unify x y with
  | int m n => exact gives_integerArithmetic_type op m n
  | dec d e => exact gives_decimalArithmetic_type op d e
  | single x y =>
    apply gives_binaryArithmetic_type
    · intro z
      rfl
    · exact nofun
  | double x y =>
    apply gives_binaryArithmetic_type
    · intro z
      rfl
    · exact nofun

/-! ### Values and their representations -/

/-- The integers that outgrow `integer` are those that are no signed words. -/
theorem outgrows_integer_iff {k : IntegerKind} {n : k.Word} :
    (integer k n).outgrows (.integer .integer) = true ↔ ¬ Signed64.Fits n.val := by
  have hlow : -0x8000000000000000 ≤ n.val := by
    have hn := n.low_le
    cases k <;> simp only [IntegerKind.low] at hn <;> omega
  unfold Signed64.Fits
  simp only [outgrows, integer?, decide_true, Bool.true_and, Option.any_some, decide_eq_true_eq]
  omega

theorem outgrows_of_ne {t : AtomicType} (h : t ≠ .integer .integer) : a.outgrows t = false := by
  rw [outgrows, decide_eq_false h, Bool.false_and]

/-- A value does not outgrow its own type. -/
theorem outgrows_of_type {t : AtomicType} (h : a.type = t) : a.outgrows t = false := by
  by_cases ht : t = .integer .integer
  · subst ht
    cases a with
    | integer k n =>
      cases h
      rw [← Bool.not_eq_true, outgrows_integer_iff, not_not]
      exact ⟨n.low_le, n.le_high⟩
    | _ => cases h
  · exact outgrows_of_ne ht

/-- The rank of a numeric value is that of its representation, but an integer that outgrows
    `integer` counts as a decimal. -/
theorem exists_number (ha : a.isNumeric = true) :
    ∃ r x, a.type.rank? = some r ∧ r ≤ 3 ∧ Number.ofAtomic? a = some x ∧
      (a.outgrows (.integer .integer) = false ∧ x.rank = r ∨
        a.outgrows (.integer .integer) = true ∧ x.rank = 1 ∧ r = 0) := by
  cases a with
  | integer k n =>
    by_cases hfits : Signed64.Fits n.val
    · have hstays : (integer k n).outgrows (.integer .integer) = false := by
        rw [← Bool.not_eq_true, outgrows_integer_iff, not_not]
        exact hfits
      exact ⟨0, _, rfl, by decide, ofAtomic?_of_fits hfits, .inl ⟨hstays, rfl⟩⟩
    · have hlarge := outgrows_integer_iff.2 hfits
      exact ⟨0, _, rfl, by decide, ofAtomic?_of_not_fits hfits, .inr ⟨hlarge, rfl, rfl⟩⟩
  | decimal d => exact ⟨1, _, rfl, by decide, rfl, .inl ⟨rfl, rfl⟩⟩
  | float x => exact ⟨2, _, rfl, by decide, rfl, .inl ⟨rfl, rfl⟩⟩
  | double x => exact ⟨3, _, rfl, by decide, rfl, .inl ⟨rfl, rfl⟩⟩
  | _ => cases ha

/-- The numbers of the two lower ranks have exact values. -/
theorem exists_exactValue_of_rank (ha : a.isNumeric = true) (hr : a.type.rank? = some r)
    (hle : r ≤ 1) : ∃ z, a.exactValue? = some z := by
  cases a with
  | integer k n => exact ⟨_, rfl⟩
  | decimal d => exact ⟨_, rfl⟩
  | float x | double x =>
    cases hr
    omega
  | _ => cases ha

theorem ofNumericRank_ne {n : Nat} (h : n ≠ 0) :
    AtomicType.ofNumericRank n ≠ .integer .integer := by
  intro heq
  unfold AtomicType.ofNumericRank at heq
  split at heq <;> first | exact h rfl | cases heq

/-- Up to decimals, types have one of the two lower ranks. -/
theorem rank_le_one {n : Nat} (h : AtomicType.ofNumericRank n = .integer .integer ∨
    AtomicType.ofNumericRank n = .decimal) : n ≤ 1 := by
  unfold AtomicType.ofNumericRank at h
  split at h
  · exact Nat.zero_le 1
  · exact le_refl 1
  · rcases h with h | h <;> cases h
  · rcases h with h | h <;> cases h

/-- A value of another type is promoted through its representation. -/
theorem promote?_number {t : AtomicType} (hne : a.type ≠ t) (hr : a.type.rank? = some r)
    (hs : t.rank? = some s) (hrs : r ≤ s) (hx : Number.ofAtomic? a = some x) :
    a.promote? t = promoteNumber? x t := by
  unfold promote?
  rw [if_neg hne, hr, hs, hx]
  dsimp only
  rw [if_neg (by omega)]

/-- A value is promoted to the types of higher or equal rank. Its type is then the target, with the
    one exception, and up to decimals its number is the same. -/
theorem exists_promoted (ha : a.isNumeric = true) (hr : a.type.rank? = some r) (hrs : r ≤ s)
    (hs : s ≤ 3) :
    ∃ v, a.promote? (.ofNumericRank s) = some v ∧
      v.type = (if a.outgrows (.ofNumericRank s) then .decimal else .ofNumericRank s) ∧
      (s ≤ 1 → ∃ z, a.exactValue? = some z ∧ v.exactValue? = some z) := by
  by_cases htype : a.type = .ofNumericRank s
  · refine ⟨a, if_pos htype, ?_, ?_⟩
    · rw [outgrows_of_type htype]
      exact htype
    · intro hexact
      obtain ⟨z, hz⟩ := exists_exactValue_of_rank ha hr (by omega)
      exact ⟨z, hz, hz⟩
  · obtain ⟨r', x, hr', -, hx, hrank⟩ := exists_number ha
    cases hr.symm.trans hr'
    -- What the representation is worth, where it is an exact one.
    have hexact (hle : r ≤ 1) :
        ∃ z d, a.exactValue? = some z ∧ x.exactDecimal? = some d ∧ d.value = z := by
      obtain ⟨z, hz⟩ := exists_exactValue_of_rank ha hr hle
      obtain ⟨y, d, hy, hd, hvalue⟩ := exists_exactDecimal hz
      cases hx.symm.trans hy
      exact ⟨z, d, hz, hd, hvalue⟩
    have hpromote {t : AtomicType} (hne : a.type ≠ t) (ht : t.rank? = some s) :
        a.promote? t = promoteNumber? x t := promote?_number hne hr ht hrs hx
    obtain rfl | rfl | rfl | rfl : s = 0 ∨ s = 1 ∨ s = 2 ∨ s = 3 := by omega
    · obtain ⟨z, d, hz, hd, hvalue⟩ := hexact (by omega)
      refine ⟨x.toAtomic, hpromote htype rfl, ?_, fun _ => ⟨z, hz, ?_⟩⟩
      · show _ = if a.outgrows (.integer .integer) then _ else _
        rw [Number.type_toAtomic]
        rcases hrank with ⟨hstays, hrank⟩ | ⟨hlarge, hrank, -⟩
        · obtain rfl : r = 0 := by omega
          rw [hstays, hrank]
          rfl
        · rw [hlarge, hrank]
          rfl
      · rw [Number.exactValue?_toAtomic hd, hvalue]
    · obtain ⟨z, d, hz, hd, hvalue⟩ := hexact hrs
      refine ⟨decimal d, ?_, ?_, fun _ => ⟨z, hz, congrArg some hvalue⟩⟩
      · rw [hpromote htype rfl]
        show x.toDecimal?.map decimal = _
        rw [Number.toDecimal?_exact hd]
        rfl
      · exact (if_neg (Bool.eq_false_iff.1 (outgrows_of_ne (ofNumericRank_ne (by omega))))).symm
    · refine ⟨_, hpromote htype rfl, ?_, fun hle => absurd hle (by omega)⟩
      exact (if_neg (Bool.eq_false_iff.1 (outgrows_of_ne (ofNumericRank_ne (by omega))))).symm
    · refine ⟨_, hpromote htype rfl, ?_, fun hle => absurd hle (by omega)⟩
      exact (if_neg (Bool.eq_false_iff.1 (outgrows_of_ne (ofNumericRank_ne (by omega))))).symm

/-! ### Two values -/

/-- The higher of two representations is that of the common type, with the one exception. -/
theorem ofNumericRank_max {r' s' : Nat}
    (ha : a.outgrows (.integer .integer) = false ∧ r' = r ∨
      a.outgrows (.integer .integer) = true ∧ r' = 1 ∧ r = 0)
    (hb : b.outgrows (.integer .integer) = false ∧ s' = s ∨
      b.outgrows (.integer .integer) = true ∧ s' = 1 ∧ s = 0) :
    AtomicType.ofNumericRank (max r' s') =
      if a.outgrows (.ofNumericRank (max r s)) || b.outgrows (.ofNumericRank (max r s)) then
        .decimal
      else .ofNumericRank (max r s) := by
  by_cases hzero : max r s = 0
  · have hr : r = 0 := by omega
    have hs : s = 0 := by omega
    subst hr hs
    show _ = if a.outgrows (.integer .integer) || b.outgrows (.integer .integer) then _ else _
    rcases ha with ⟨ha, rfl⟩ | ⟨ha, rfl, -⟩ <;> rcases hb with ⟨hb, rfl⟩ | ⟨hb, rfl, -⟩ <;>
      rw [ha, hb] <;> rfl
  · -- Beside a number that is no integer, an integer counts for less in any case.
    have hmax : max r' s' = max r s := by omega
    have hne : AtomicType.ofNumericRank (max r s) ≠ .integer .integer := ofNumericRank_ne hzero
    rw [outgrows_of_ne hne, outgrows_of_ne hne, hmax]
    rfl

/-- Two numeric values have a common type. Both are promoted to it, and up to decimals the numbers
    stay the same. What an operator makes of them has this type, but the quotient of integers is a
    decimal and the whole quotient an integer. Only an integer that outgrows `integer` counts as a
    decimal where `integer` is the common type. -/
theorem promotion_agrees (ha : a.isNumeric = true) (hb : b.isNumeric = true) :
    ∃ t, a.type.common? b.type = some t ∧
      (∀ c, c = a ∨ c = b → ∃ v, c.promote? t = some v ∧
        v.type = (if c.outgrows t then .decimal else t) ∧
        (t = .integer .integer ∨ t = .decimal →
          ∃ z, c.exactValue? = some z ∧ v.exactValue? = some z)) ∧
      ∀ op ctx v, arithmetic op a b ctx = .ok v →
        v.type = op.resultType (if a.outgrows t || b.outgrows t then .decimal else t) := by
  obtain ⟨r, x, hr, hr3, hx, hrankx⟩ := exists_number ha
  obtain ⟨s, y, hs, hs3, hy, hranky⟩ := exists_number hb
  refine ⟨.ofNumericRank (max r s), ?_, ?_, ?_⟩
  · unfold AtomicType.common?
    rw [hr, hs]
    exact if_pos (Bool.and_eq_true_iff.2 ⟨ha, hb⟩)
  · intro c hc
    have hc : ∃ q, c.isNumeric = true ∧ c.type.rank? = some q ∧ q ≤ max r s := by
      rcases hc with rfl | rfl
      · exact ⟨r, ha, hr, le_max_left r s⟩
      · exact ⟨s, hb, hs, le_max_right r s⟩
    obtain ⟨q, hnumeric, hq, hle⟩ := hc
    obtain ⟨v, hv, htype, hexact⟩ := exists_promoted hnumeric hq hle (by omega)
    exact ⟨v, hv, htype, fun ht => hexact (rank_le_one ht)⟩
  · intro op ctx v hv
    rw [arithmetic_numbers hx hy] at hv
    rw [← ofNumericRank_max hrankx hranky]
    exact (gives_numericArithmetic_type op x y).lift v hv

/-- An integer of a subtype and a decimal meet in decimals. -/
theorem promotion_agrees_short_decimal :
    let a : Atomic := .integer .short ⟨5, by decide, by decide⟩
    let b : Atomic := .decimal ⟨15, 1, by decide, by decide⟩
    let five : Atomic := .decimal ⟨5, 0, by decide, by decide⟩
    a.isNumeric = true ∧ b.isNumeric = true ∧ a.type.common? b.type = some .decimal ∧
      a.promote? .decimal = some five ∧ a.exactValue? = five.exactValue? ∧
      ∀ v, arithmetic .idiv a b .standard = .ok v → v.type = .integer .integer := by
  intro a b five
  have hfive : a.promote? .decimal = some five := by decide +kernel
  obtain ⟨t, ht, hpromote, harithmetic⟩ := promotion_agrees (a := a) (b := b) rfl rfl
  cases ht
  obtain ⟨v, hv, -, hexact⟩ := hpromote a (.inl rfl)
  cases hfive.symm.trans hv
  obtain ⟨z, ha, hz⟩ := hexact (.inr rfl)
  exact ⟨rfl, rfl, rfl, hfive, ha.trans hz.symm, fun v hv => harithmetic .idiv .standard v hv⟩

/-- The least unsigned integer that is no signed word is promoted to a decimal, though its common
    type with any integer is `integer`, and so is its sum with one. -/
theorem unsigned_promoted_to_decimal :
    let a : Atomic := .integer .unsignedLong ⟨0x8000000000000000, by decide, by decide⟩
    let one : Atomic := .int ⟨1, by decide, by decide⟩
    a.isNumeric = true ∧ one.isNumeric = true ∧
      a.type.common? one.type = some (.integer .integer) ∧
      (a.promote? (.integer .integer)).map type = some .decimal ∧
      (arithmetic .add a one .standard).map type = .ok .decimal ∧
      ¬ ∃ t, a.type.common? one.type = some t ∧
        (∀ c, c = a ∨ c = one → ∃ v, c.promote? t = some v ∧ v.type = t) ∧
        ∀ v, arithmetic .add a one .standard = .ok v → v.type = t := by
  intro a one
  have hpromote : (a.promote? (.integer .integer)).map type = some .decimal := by decide +kernel
  refine ⟨rfl, rfl, rfl, hpromote, by decide +kernel, ?_⟩
  rintro ⟨t, ht, hall, -⟩
  have hcommon : a.type.common? one.type = some (.integer .integer) := rfl
  obtain rfl : .integer .integer = t := Option.some.inj (hcommon.symm.trans ht)
  obtain ⟨v, hv, htype⟩ := hall a (.inl rfl)
  rw [hv, Option.map_some, htype] at hpromote
  cases hpromote

end Atomic

end XPathData
