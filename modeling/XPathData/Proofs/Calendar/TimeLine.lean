import XPathData.Proofs.Atomic.CalendarEnds
import XPathData.Proofs.Decimal.Division

/-! # Moving along the time line

  A number of seconds moves a date-time along the time line and a time of day around the clock.
  It is cut to whole nanoseconds first, toward zero, so that a number and its opposite move
  equally far and every move can be taken back. Nothing is cut off whole nanoseconds: their sums
  are exact, and two moves one after the other are one move by the sum.

  * `DateTime.shift?_eq_some_iff` — where a move along the time line leads
  * `Clock.shift_shift` — two moves around the clock are one
  * `Decimal.exists_add_wholeNanos` — sums of whole nanoseconds are exact
  * `Atomic.seconds_move_times` — moves there and back, and one after the other
-/

namespace XPathData

open Calendar

/-! ### Points of the time line -/

/-- A day number belongs to the date that is found for it. -/
theorem Date.dayNumber_of_ofDayNumber? {n : Int} {d : Date} (h : ofDayNumber? n = some d) :
    d.dayNumber = n := by
  have hin : ¬(n < firstDay.dayNumber ∨ lastDay.dayNumber < n) := by
    rw [← ofDayNumber?_eq_none_iff, h]
    exact Option.some_ne_none d
  obtain ⟨e, rfl⟩ := exists_dayNumber (n := n) (by omega) (by omega)
  rw [e.ofDayNumber?_dayNumber] at h
  cases h
  rfl

namespace DateTime

variable {t u : DateTime} {m n : Int}

theorem ofNanos?_eq_some_iff : ofNanos? n = some t ↔ t.nanos = n := by
  constructor
  · intro h
    obtain ⟨d, hd, rfl⟩ := Option.map_eq_some_iff.1 h
    have hday := Date.dayNumber_of_ofDayNumber? hd
    have hrest := Int.emod_nonneg n (show (nanosPerDay : Int) ≠ 0 by decide)
    show d.dayNumber * nanosPerDay + (((0 + n) % nanosPerDay).toNat : Int) = n
    rw [hday, Int.zero_add, Int.toNat_of_nonneg hrest]
    exact Int.ediv_mul_add_emod n nanosPerDay
  · rintro rfl
    exact t.ofNanos?_nanos

/-- A move leads to the point that lies so many nanoseconds ahead, if it is in the calendar. -/
theorem shift?_eq_some_iff : t.shift? n = some u ↔ u.nanos = t.nanos + n := ofNanos?_eq_some_iff

theorem shift?_neg (h : t.shift? n = some u) : u.shift? (-n) = some t := by
  rw [shift?_eq_some_iff] at h ⊢
  omega

theorem shift?_shift? (h : t.shift? m = some u) (n : Int) : u.shift? n = t.shift? (m + n) := by
  rw [shift?_eq_some_iff] at h
  unfold shift?
  rw [h, Int.add_assoc]

end DateTime

/-! ### Times of day -/

namespace Clock

theorem nanos_shift (c : Clock) (n : Int) : ((c.shift n).nanos : Int) = (c.nanos + n) % nanosPerDay :=
  Int.toNat_of_nonneg (Int.emod_nonneg _ (by decide))

theorem shift_shift (c : Clock) (m n : Int) : (c.shift m).shift n = c.shift (m + n) := by
  apply ext_nanos
  apply Int.ofNat.inj
  show ((c.shift m).shift n).nanos = ((c.shift (m + n)).nanos : Int)
  rw [nanos_shift, nanos_shift, nanos_shift, Int.emod_add_emod, Int.add_assoc]

theorem shift_zero (c : Clock) : c.shift 0 = c := by
  have hlt := c.nanos_lt
  apply ext_nanos
  apply Int.ofNat.inj
  show (c.shift 0).nanos = (c.nanos : Int)
  rw [nanos_shift, Int.add_zero]
  exact Int.emod_eq_of_lt (by omega) (by omega)

end Clock

/-! ### Whole nanoseconds -/

namespace Decimal

variable {s t : Decimal}

/-- The seconds are a whole number of nanoseconds. -/
def WholeNanos (s : Decimal) : Prop := ∃ n : Int, s.value * nanosPerSecond = n

/-- Nothing is cut off whole nanoseconds. -/
theorem nanos_eq {n : Int} (h : s.value * nanosPerSecond = n) : s.nanos = n := by
  have hpos : (10 : ℚ) ^ s.scale ≠ 0 := by positivity
  have hcross : (s.coefficient : ℚ) * nanosPerSecond = n * 10 ^ s.scale := by
    rw [← h, value]
    field_simp
  have hcross' : s.coefficient * nanosPerSecond = n * (10 ^ s.scale : Nat) := by
    exact_mod_cast hcross
  unfold nanos
  rw [hcross']
  exact Int.mul_tdiv_cancel n (by positivity)

/-- A quotient that needs no more than `j` places is exact if there is room for them. -/
theorem exists_fit_exact {n k : Int} {d j p : Nat} (hd : 0 < d) (hj : j ≤ p) (hp : p ≤ 28)
    (hk : n * (10 ^ j : Nat) = k * d) (hlimit : k.natAbs < coefficientLimit) :
    ∃ r, fit n d p = some r ∧ r.value = n / d := by
  -- From `j` places on the digits are a multiple of the divisor, and rounding leaves them alone.
  have hplaces (q : Nat) (hq : j ≤ q) :
      Rounding.halfEvenInt (n * Nat.pow 10 q) d = k * (10 ^ (q - j) : Nat) := by
    have hpow : Nat.pow 10 q = 10 ^ j * 10 ^ (q - j) := by
      rw [← pow_add, Nat.add_sub_cancel' hq]
      rfl
    rw [hpow, Int.natCast_mul, ← Int.mul_assoc, hk, Int.mul_right_comm]
    exact Rounding.halfEvenInt_mul _ hd
  obtain ⟨r, hr, hscale, hc⟩ := exists_fit (d := d) hj hp (n := n) (by
    rw [hplaces j (Nat.le_refl j), Nat.sub_self, pow_zero, Nat.cast_one, Int.mul_one]
    exact hlimit)
  refine ⟨r, hr, ?_⟩
  rw [hplaces _ hscale] at hc
  have hdpos : (d : ℚ) ≠ 0 := by exact_mod_cast hd.ne'
  have hpow : (10 : ℚ) ^ r.scale = 10 ^ j * 10 ^ (r.scale - j) := by
    rw [← pow_add, Nat.add_sub_cancel' hscale]
  have hkq : (n : ℚ) * 10 ^ j = k * d := by exact_mod_cast hk
  rw [value, hc, hpow, div_eq_div_iff (by positivity) hdpos]
  push_cast
  rw [mul_right_comm, ← hkq, mul_assoc]

theorem natAbs_lt_of_abs_lt {k : Int} (h : |(k : ℚ)| < 2 * 10 ^ 27) :
    k.natAbs < coefficientLimit := by
  have hint : |k| < 2 * 10 ^ 27 := by exact_mod_cast h
  rw [Int.abs_eq_natAbs] at hint
  unfold coefficientLimit
  omega

/-- The sum of whole nanoseconds is exact, within any span that matters. -/
theorem exists_add_wholeNanos (hs : s.WholeNanos) (ht : t.WholeNanos)
    (hsmall : |s.value| < 10 ^ 18) (htsmall : |t.value| < 10 ^ 18) :
    ∃ u, s.add? t = some u ∧ u.value = s.value + t.value := by
  obtain ⟨m, hm⟩ := hs
  obtain ⟨n, hn⟩ := ht
  have hplaces := max_le s.scale_le t.scale_le
  have hsum : |s.value + t.value| < 2 * 10 ^ 18 := by
    have htriangle := abs_add_le s.value t.value
    linarith
  -- Both numbers are brought to the places of the longer one.
  have hvalue : ((s.atScale (max s.scale t.scale) + t.atScale (max s.scale t.scale) : Int) : ℚ) /
      (10 ^ max s.scale t.scale : Nat) = s.value + t.value := by
    push_cast
    rw [add_div, value_atScale (le_max_left _ _), value_atScale (le_max_right _ _)]
  unfold add?
  dsimp only
  generalize s.atScale (max s.scale t.scale) + t.atScale (max s.scale t.scale) = c at hvalue ⊢
  generalize max s.scale t.scale = p at hplaces hvalue ⊢
  have hten : 0 < 10 ^ p := by positivity
  have hpos : (0 : ℚ) < (10 ^ p : Nat) := by positivity
  have hc : (c : ℚ) = (s.value + t.value) * (10 ^ p : Nat) := (div_eq_iff hpos.ne').1 hvalue
  rw [← hvalue]
  by_cases hnine : 9 ≤ p
  · -- Nine places are enough for the sum.
    have hk : ((m + n : Int) : ℚ) = (s.value + t.value) * 10 ^ 9 := by
      push_cast [← hm, ← hn, nanosPerSecond]
      ring
    apply exists_fit_exact hten hnine hplaces (k := m + n)
    · have hcross : (c : ℚ) * (10 ^ 9 : Nat) = ((m + n : Int) : ℚ) * (10 ^ p : Nat) := by
        rw [hc, hk]
        push_cast
        ring
      exact_mod_cast hcross
    · apply natAbs_lt_of_abs_lt
      rw [hk, abs_mul, abs_of_pos (by positivity : (0 : ℚ) < 10 ^ 9)]
      linarith
  · apply exists_fit_exact hten (Nat.le_refl p) hplaces (k := c) rfl
    apply natAbs_lt_of_abs_lt
    have hpow : (10 ^ p : ℚ) ≤ 10 ^ 9 := pow_le_pow_right₀ (by norm_num) (by omega)
    rw [hc, abs_mul, abs_of_pos hpos]
    push_cast
    calc |s.value + t.value| * 10 ^ p ≤ |s.value + t.value| * 10 ^ 9 := by gcongr
      _ < 2 * 10 ^ 27 := by linarith

end Decimal

/-! ### Moves by seconds -/

/-- A sum moves ahead, a difference back. -/
def ArithmeticOp.direction : ArithmeticOp → Int
  | sub => -1
  | _ => 1

namespace Atomic

variable {a b : Atomic} {ctx : ValueContext} {op : ArithmeticOp}

/-- What shifts a date or time is not combined with it in another way. -/
theorem arithmetic_of_shift {r : Outcome Atomic} (hop : op = .add ∨ op = .sub)
    (h : shift a b op.direction = some r) : arithmetic op a b ctx = r := by
  unfold shift at h
  split at h
  case h_6 => cases h
  all_goals
    cases h
    rcases hop with rfl | rfl <;> rfl

theorem arithmetic_dateTime_seconds (hop : op = .add ∨ op = .sub) (t : DateTime)
    (zone : Option Offset) (s : Decimal) :
    arithmetic op (dateTime t zone) (dayTimeDuration s) ctx =
      shifted (t.shift? (op.direction * s.nanos)) fun u => dateTime u zone :=
  arithmetic_of_shift hop rfl

theorem arithmetic_time_seconds (hop : op = .add ∨ op = .sub) (c : Clock) (zone : Option Offset)
    (s : Decimal) :
    arithmetic op (time c zone) (dayTimeDuration s) ctx =
      .ok (time (c.shift (op.direction * s.nanos)) zone) :=
  arithmetic_of_shift hop rfl

theorem shifted_eq_ok_iff {α : Type} {t : Option α} {wrap : α → Atomic} {y : Atomic} :
    shifted t wrap = .ok y ↔ ∃ u, t = some u ∧ y = wrap u := by
  cases t with
  | none => exact ⟨nofun, fun ⟨u, hu, _⟩ => by cases hu⟩
  | some u =>
    constructor
    · intro h
      cases h
      exact ⟨u, rfl, rfl⟩
    · rintro ⟨v, hv, rfl⟩
      cases hv
      rfl

/-- Seconds move a date-time to the point that lies so many nanoseconds ahead. -/
theorem add_dateTime_eq_ok_iff {t : DateTime} {zone : Option Offset} {s : Decimal} {y : Atomic} :
    arithmetic .add (dateTime t zone) (dayTimeDuration s) ctx = .ok y ↔
      ∃ u : DateTime, u.nanos = t.nanos + s.nanos ∧ y = dateTime u zone := by
  rw [arithmetic_dateTime_seconds (.inl rfl), shifted_eq_ok_iff]
  show (∃ u, t.shift? (1 * s.nanos) = some u ∧ _) ↔ _
  simp only [DateTime.shift?_eq_some_iff, Int.one_mul]

/-- The same move back leads to where it started. -/
theorem sub_of_add_dateTime {t : DateTime} {zone : Option Offset} {s : Decimal} {y : Atomic}
    (h : arithmetic .add (dateTime t zone) (dayTimeDuration s) ctx = .ok y) :
    arithmetic .sub y (dayTimeDuration s) ctx = .ok (dateTime t zone) := by
  obtain ⟨u, hu, rfl⟩ := add_dateTime_eq_ok_iff.1 h
  have hmove : t.shift? s.nanos = some u := DateTime.shift?_eq_some_iff.2 hu
  rw [arithmetic_dateTime_seconds (.inr rfl)]
  show shifted (u.shift? (-1 * s.nanos)) _ = _
  rw [Int.neg_one_mul, DateTime.shift?_neg hmove]
  rfl

theorem add_time (c : Clock) (zone : Option Offset) (s : Decimal) :
    arithmetic .add (time c zone) (dayTimeDuration s) ctx = .ok (time (c.shift s.nanos) zone) := by
  rw [arithmetic_time_seconds (.inl rfl)]
  show Except.ok (time (c.shift (1 * s.nanos)) zone) = _
  rw [Int.one_mul]

theorem sub_add_time (c : Clock) (zone : Option Offset) (s : Decimal) :
    arithmetic .sub (time (c.shift s.nanos) zone) (dayTimeDuration s) ctx = .ok (time c zone) := by
  rw [arithmetic_time_seconds (.inr rfl)]
  show Except.ok (time ((c.shift s.nanos).shift (-1 * s.nanos)) zone) = _
  have hback : s.nanos + -1 * s.nanos = 0 := by omega
  rw [Clock.shift_shift, hback, Clock.shift_zero]

/-- Two moves of a date-time are one, wherever it goes in between. -/
theorem add_add_dateTime {x : DateTime} {zone : Option Offset} {s t u : Decimal} {y : Atomic}
    (hnanos : u.nanos = s.nanos + t.nanos)
    (h : arithmetic .add (dateTime x zone) (dayTimeDuration s) ctx = .ok y) :
    arithmetic .add y (dayTimeDuration t) ctx =
      arithmetic .add (dateTime x zone) (dayTimeDuration u) ctx := by
  obtain ⟨z, hz, rfl⟩ := add_dateTime_eq_ok_iff.1 h
  rw [arithmetic_dateTime_seconds (.inl rfl), arithmetic_dateTime_seconds (.inl rfl)]
  show shifted (z.shift? (1 * t.nanos)) _ = shifted (x.shift? (1 * u.nanos)) _
  have hmove : x.shift? s.nanos = some z := DateTime.shift?_eq_some_iff.2 hz
  rw [Int.one_mul, Int.one_mul, hnanos, DateTime.shift?_shift? hmove]

/-- Durations of whole nanoseconds have an exact sum, which moves as far as both together. -/
theorem exists_add_seconds {s t : Decimal} (hs : s.WholeNanos) (ht : t.WholeNanos)
    (hsmall : |s.value| < 10 ^ 18) (htsmall : |t.value| < 10 ^ 18) :
    ∃ u, arithmetic .add (dayTimeDuration s) (dayTimeDuration t) ctx = .ok (dayTimeDuration u) ∧
      u.value = s.value + t.value ∧ u.value * nanosPerSecond = u.nanos ∧
      u.nanos = s.nanos + t.nanos := by
  obtain ⟨u, hadd, hvalue⟩ := Decimal.exists_add_wholeNanos hs ht hsmall htsmall
  obtain ⟨m, hm⟩ := hs
  obtain ⟨n, hn⟩ := ht
  have hsum : u.value * nanosPerSecond = (m + n : Int) := by
    rw [hvalue, add_mul, hm, hn, Int.cast_add]
  have hnanos := Decimal.nanos_eq hsum
  refine ⟨u, ?_, hvalue, ?_, ?_⟩
  · show (liftM ((orThrow durationOverflow (s.add? t)).map dayTimeDuration) : Outcome Atomic) = _
    rw [hadd]
    rfl
  · rw [hnanos, hsum]
  · rw [hnanos, Decimal.nanos_eq hm, Decimal.nanos_eq hn]

/-- Seconds, any number of them, move date-times and times, whose timezones are kept. A move of a
    date-time leads to the point of the time line that lies so many nanoseconds ahead, if there is
    one, and a move of a time always leads somewhere; the same move back leads to where it started.
    Numbers of seconds that are whole nanoseconds add up exactly: two moves one after the other are
    one move by their sum. Around the clock this goes on past midnight. -/
theorem seconds_move_times (ctx : ValueContext) :
    (∀ (t : DateTime) (zone : Option Offset) (s : Decimal) (y : Atomic),
      arithmetic .add (dateTime t zone) (dayTimeDuration s) ctx = .ok y →
        arithmetic .sub y (dayTimeDuration s) ctx = .ok (dateTime t zone) ∧
          ∃ u : DateTime, u.nanos = t.nanos + s.nanos ∧ y = dateTime u zone) ∧
    (∀ (c : Clock) (zone : Option Offset) (s : Decimal),
      ∃ e, arithmetic .add (time c zone) (dayTimeDuration s) ctx = .ok (time e zone) ∧
        arithmetic .sub (time e zone) (dayTimeDuration s) ctx = .ok (time c zone)) ∧
    ∀ s t : Decimal, s.WholeNanos → t.WholeNanos → |s.value| < 10 ^ 18 → |t.value| < 10 ^ 18 →
      ∃ u n, arithmetic .add (dayTimeDuration s) (dayTimeDuration t) ctx =
          .ok (dayTimeDuration u) ∧
        u.value = s.value + t.value ∧ u.value * nanosPerSecond = (n : Int) ∧
        (∀ (x : DateTime) (zone : Option Offset) (y : Atomic),
          arithmetic .add (dateTime x zone) (dayTimeDuration s) ctx = .ok y →
            arithmetic .add y (dayTimeDuration t) ctx =
              arithmetic .add (dateTime x zone) (dayTimeDuration u) ctx) ∧
        ∀ (c : Clock) (zone : Option Offset), ∃ e f : Clock,
          arithmetic .add (time c zone) (dayTimeDuration s) ctx = .ok (time e zone) ∧
          arithmetic .add (time e zone) (dayTimeDuration t) ctx = .ok (time f zone) ∧
          arithmetic .add (time c zone) (dayTimeDuration u) ctx = .ok (time f zone) ∧
          (f.nanos : Int) = (c.nanos + n) % nanosPerDay := by
  refine ⟨?_, ?_, ?_⟩
  · intro t zone s y h
    exact ⟨sub_of_add_dateTime h, add_dateTime_eq_ok_iff.1 h⟩
  · intro c zone s
    exact ⟨c.shift s.nanos, add_time c zone s, sub_add_time c zone s⟩
  · intro s t hs ht hsmall htsmall
    obtain ⟨u, hadd, hvalue, hwhole, hnanos⟩ := exists_add_seconds hs ht hsmall htsmall
    refine ⟨u, u.nanos, hadd, hvalue, hwhole, ?_, ?_⟩
    · intro x zone y h
      exact add_add_dateTime hnanos h
    · intro c zone
      have htwice : (c.shift s.nanos).shift t.nanos = c.shift u.nanos := by
        rw [Clock.shift_shift, hnanos]
      refine ⟨c.shift s.nanos, c.shift u.nanos, add_time c zone s, ?_, add_time c zone u, ?_⟩
      · rw [add_time, htwice]
      · exact Clock.nanos_shift c u.nanos

/-- Over the end of February, six tenths of a second ahead and then more than a second back. -/
theorem seconds_move_times_leap_day :
    let day : Date := ⟨2024, 2, 28, by decide, by decide, by decide⟩
    let nextDay : Date := ⟨2024, 2, 29, by decide, by decide, by decide⟩
    let zone : Option Offset := some ⟨19800, by decide, by decide⟩
    let x : Atomic := dateTime ⟨day, ⟨86399500000000, by decide⟩⟩ zone
    let y : Atomic := dateTime ⟨nextDay, ⟨100000000, by decide⟩⟩ zone
    let s : Decimal := ⟨6, 1, by decide, by decide⟩
    let t : Decimal := ⟨-125, 2, by decide, by decide⟩
    s.WholeNanos ∧ t.WholeNanos ∧ |s.value| < 10 ^ 18 ∧ |t.value| < 10 ^ 18 ∧
      arithmetic .add x (dayTimeDuration s) .standard = .ok y ∧
      arithmetic .sub y (dayTimeDuration s) .standard = .ok x ∧
      ∃ u, arithmetic .add (dayTimeDuration s) (dayTimeDuration t) .standard =
          .ok (dayTimeDuration u) ∧
        arithmetic .add y (dayTimeDuration t) .standard =
          arithmetic .add x (dayTimeDuration u) .standard := by
  intro day nextDay zone x y s t
  have hs : s.value = 6 / 10 := by norm_num [s, Decimal.value]
  have ht : t.value = -125 / 100 := by norm_num [t, Decimal.value]
  have hsWhole : s.WholeNanos := ⟨600000000, by rw [hs]; norm_num [nanosPerSecond]⟩
  have htWhole : t.WholeNanos := ⟨-1250000000, by rw [ht]; norm_num [nanosPerSecond]⟩
  have hsSmall : |s.value| < 10 ^ 18 := by rw [hs, abs_lt]; norm_num
  have htSmall : |t.value| < 10 ^ 18 := by rw [ht, abs_lt]; norm_num
  have hadd : arithmetic .add x (dayTimeDuration s) .standard = .ok y := by decide +kernel
  obtain ⟨hdateTime, -, hwhole⟩ := seconds_move_times .standard
  obtain ⟨u, n, hu, -, -, htwice, -⟩ := hwhole s t hsWhole htWhole hsSmall htSmall
  exact ⟨hsWhole, htWhole, hsSmall, htSmall, hadd, (hdateTime _ _ s y hadd).1, u, hu,
    htwice _ _ y hadd⟩

end Atomic

end XPathData
