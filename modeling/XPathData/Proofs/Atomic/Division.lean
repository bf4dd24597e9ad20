import XPathData.Atomic.Arithmetic
import XPathData.Proofs.Decimal.Division

/-! # The division law of decimals

  A dividend is the quotient times the divisor, and the remainder. For decimals the quotient is the
  whole part of one that was rounded before, while the remainder comes from the exact digits. So
  the law fails where rounding has carried the quotient to the next whole number, and it fails
  nowhere else as long as the remainder is exact.

  * `Atomic.decimal_idiv`, `Atomic.decimal_mod` — what the two operators give
  * `Atomic.division_law_iff` — where the law holds, and by how much it fails elsewhere
  * `Atomic.division_law_fails` — a quotient of almost one
-/

namespace XPathData.Atomic

variable {a b : Decimal} {ctx : ValueContext} {v : Atomic}

/-- Two decimals are computed as decimals. -/
theorem arithmetic_decimals (op : ArithmeticOp) (a b : Decimal) (ctx : ValueContext) :
    arithmetic op (decimal a) (decimal b) ctx = liftM (decimalArithmetic op a b) := rfl

theorem of_orThrow_map {α : Type} {e : Error} {x : Option α} {wrap : α → Atomic}
    (h : (liftM ((orThrow e x).map wrap) : Outcome Atomic) = .ok v) :
    ∃ y, x = some y ∧ v = wrap y := by
  cases x with
  | some y =>
    cases h
    exact ⟨y, rfl, rfl⟩
  | none => cases h

/-- The quotient is the whole part of the rounded one, if it is a word. -/
theorem decimal_idiv (h : arithmetic .idiv (decimal a) (decimal b) ctx = .ok v) :
    ∃ x, a.div? b = some x ∧ ∃ q : Signed64, q.val = x.whole ∧ v = int q := by
  rw [arithmetic_decimals, decimalArithmetic] at h
  split at h
  · cases h
  · cases hx : a.div? b with
    | none =>
      rw [hx] at h
      cases h
    | some x =>
      rw [hx] at h
      obtain ⟨q, hq, hv⟩ := of_orThrow_map h
      exact ⟨x, rfl, q, Bounded.ofInt?_eq_some_iff.1 hq, hv⟩

theorem decimal_mod (h : arithmetic .mod (decimal a) (decimal b) ctx = .ok v) :
    b.coefficient ≠ 0 ∧ ∃ r, a.rem? b = some r ∧ v = decimal r := by
  rw [arithmetic_decimals, decimalArithmetic] at h
  split at h
  · cases h
  · next hzero => exact ⟨by simpa [Decimal.isZero] using hzero, of_orThrow_map h⟩

/-- The quotient toward zero and the remainder of two decimals. The remainder is less than the
    divisor and has the sign of the dividend, and it is the exact one where the division of the
    digits loses nothing. The quotient is the exact one, or the next number away from zero where
    rounding carries to it. With an exact remainder the division law holds exactly if the quotient
    does not carry. -/
theorem division_law_iff {w : Atomic}
    (hidiv : arithmetic .idiv (decimal a) (decimal b) ctx = .ok v)
    (hmod : arithmetic .mod (decimal a) (decimal b) ctx = .ok w) :
    ∃ (q : Signed64) (r : Decimal), v = int q ∧ w = decimal r ∧
      |r.value| < |b.value| ∧ (r.value = 0 ∨ r.sign = a.sign) ∧
      (a.KeepsRest b → a.value = a.quotient b * b.value + r.value) ∧
      (¬ a.Carries b → q.val = a.quotient b) ∧
      (a.Carries b → q.val = a.quotient b + a.sign * b.sign) ∧
      (a.value = q.val * b.value + r.value ↔
        ¬ a.Carries b ∧ a.value = a.quotient b * b.value + r.value) := by
  obtain ⟨x, hx, q, hq, rfl⟩ := decimal_idiv hidiv
  obtain ⟨hb, r, hr, rfl⟩ := decimal_mod hmod
  have hword : x.whole.natAbs ≤ 2 ^ 63 := by
    have hlow := q.low_le
    have hhigh := q.le_high
    omega
  obtain ⟨hcarries, hstays⟩ := Decimal.whole_of_div? hx hword
  obtain ⟨hlt, hsign, hexact⟩ := Decimal.of_rem? hr
  rw [← hq] at hcarries hstays
  refine ⟨q, r, rfl, rfl, hlt, hsign, hexact, hstays, hcarries, ?_, ?_⟩
  · intro hlaw
    by_cases h : a.Carries b
    · rw [hcarries h] at hlaw
      exact absurd hlaw (Decimal.ne_of_carries hb h hsign)
    · rw [hstays h] at hlaw
      exact ⟨h, hlaw⟩
  · rintro ⟨h, hlaw⟩
    rw [hstays h]
    exact hlaw

/-- Both operands may be negative, with different numbers of places. -/
theorem division_law_iff_negative :
    let a : Decimal := ⟨-75, 1, by decide, by decide⟩
    let b : Decimal := ⟨2, 0, by decide, by decide⟩
    ∃ (q : Signed64) (r : Decimal),
      arithmetic .idiv (decimal a) (decimal b) .standard = .ok (int q) ∧
      arithmetic .mod (decimal a) (decimal b) .standard = .ok (decimal r) ∧
      a.value = q.val * b.value + r.value ∧ |r.value| < |b.value| ∧ r.sign = -1 := by
  intro a b
  have hidiv : arithmetic .idiv (decimal a) (decimal b) .standard =
      .ok (int ⟨-3, by decide, by decide⟩) := by decide +kernel
  have hmod : arithmetic .mod (decimal a) (decimal b) .standard =
      .ok (decimal ⟨-15, 1, by decide, by decide⟩) := by decide +kernel
  obtain ⟨q, r, hq, hr, hlt, -, hexact, -, -, hlaw⟩ := division_law_iff hidiv hmod
  cases hq
  cases hr
  have hstays : ¬ a.Carries b := by
    rw [Decimal.carries_iff]
    decide +kernel
  exact ⟨_, _, hidiv, hmod, hlaw.2 ⟨hstays, hexact (.inr (.inl (by decide)))⟩, hlt, rfl⟩

/-- A number is less than three by its last place, and a third of it is less than one by less than
    half a unit of that place. So the quotient is one, though the remainder is the number itself,
    which is not divided at all. -/
theorem division_law_fails :
    let a : Decimal := ⟨29999999999999999999999999999, 28, by decide, by decide⟩
    let b : Decimal := ⟨3, 0, by decide, by decide⟩
    let one : Signed64 := ⟨1, by decide, by decide⟩
    arithmetic .idiv (decimal a) (decimal b) .standard = .ok (int one) ∧
      arithmetic .mod (decimal a) (decimal b) .standard = .ok (decimal a) ∧
      a.KeepsRest b ∧ a.value ≠ one.val * b.value + a.value := by
  intro a b one
  have hvalue : b.value = 3 := by norm_num [b, Decimal.value]
  have hlt : |a.value| < |b.value| := by norm_num [a, b, Decimal.value]
  refine ⟨by decide +kernel, by decide +kernel, .inl hlt, ?_⟩
  rw [hvalue]
  simp [one]

end XPathData.Atomic
