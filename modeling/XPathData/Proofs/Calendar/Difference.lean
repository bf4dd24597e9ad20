import XPathData.Proofs.Atomic.Order
import XPathData.Proofs.Calendar.TimeLine

/-! # The time between two date-times

  Two date-times are compared and subtracted by their instants, which the timezone of the context
  gives where they have none of their own. The difference is a number of seconds with nine places
  at most, so nothing of it is lost, and a move by it leads from one instant to the other. What is
  moved is local time, but the timezone is kept and its offset is taken off both ends of the move.

  * `Decimal.eq_neg_of_ofNanos?` — opposite numbers of nanoseconds are opposite numbers of seconds
  * `Atomic.sub_dateTime` — the difference is the way from one instant to the other
  * `Atomic.add_difference` — a move by the difference leads there
  * `Atomic.difference_inverts_moves` — differences, comparison and moves agree
-/

namespace XPathData

/-! ### Nanoseconds as seconds -/

theorem nanosPerSecond_pos : (0 : ℚ) < nanosPerSecond := by norm_num [nanosPerSecond]

namespace Decimal

variable {s : Decimal} {n : Int}

theorem IsNormal.neg (h : s.IsNormal) : s.neg.IsNormal := by
  rcases h with hscale | hlast
  · exact .inl hscale
  · exact .inr fun hdvd => hlast (Int.dvd_neg.1 hdvd)

/-- Nanoseconds take nine places, less the zeros at the end. -/
theorem of_ofNanos? (h : ofNanos? n = some s) : s.IsNormal ∧ s.value * nanosPerSecond = n := by
  obtain ⟨p, hp, rfl⟩ := Option.map_eq_some_iff.1 h
  obtain ⟨hcoefficient, hscale⟩ := of_ofParts? hp
  refine ⟨p.normalize_isNormal, ?_⟩
  have hten : (nanosPerSecond : ℚ) = 10 ^ 9 := by norm_num [nanosPerSecond]
  rw [value_normalize, value, hcoefficient, hscale, hten]
  exact div_mul_cancel₀ _ (by norm_num)

theorem nanos_of_ofNanos? (h : ofNanos? n = some s) : s.nanos = n := nanos_eq (of_ofNanos? h).2

/-- Opposite numbers of nanoseconds are opposite numbers of seconds. -/
theorem eq_neg_of_ofNanos? {t : Decimal} (hs : ofNanos? n = some s) (ht : ofNanos? (-n) = some t) :
    t = s.neg := by
  obtain ⟨hsNormal, hsValue⟩ := of_ofNanos? hs
  obtain ⟨htNormal, htValue⟩ := of_ofNanos? ht
  have hsame : t.value = s.neg.value := by
    apply mul_right_cancel₀ nanosPerSecond_pos.ne'
    rw [htValue, value_neg, neg_mul, hsValue, Int.cast_neg]
  exact htNormal.eq_of_value hsNormal.neg hsame

/-- A number of seconds has the sign of its nanoseconds. -/
theorem value_neg_iff (h : s.value * nanosPerSecond = n) : s.value < 0 ↔ n < 0 := by
  rw [← Int.cast_lt_zero (R := ℚ), ← h, mul_neg_iff]
  constructor
  · intro hneg
    exact .inr ⟨hneg, nanosPerSecond_pos⟩
  · rintro (⟨-, hneg⟩ | ⟨hneg, -⟩)
    · exact absurd hneg nanosPerSecond_pos.not_gt
    · exact hneg

theorem value_eq_zero_iff (h : s.value * nanosPerSecond = n) : s.value = 0 ↔ n = 0 := by
  rw [← Int.cast_eq_zero (α := ℚ), ← h, mul_eq_zero, or_iff_left nanosPerSecond_pos.ne']

end Decimal

/-! ### Operators on numbers -/

namespace ComparisonOp

theorem holds_lt (m n : Int) : lt.holds (some (compare m n)) = decide (m - n < 0) := by
  show (compare m n == .lt) = _
  rw [Bool.eq_iff_iff, beq_iff_eq, compare_lt_iff_lt, decide_eq_true_eq]
  omega

theorem holds_eq (m n : Int) : eq.holds (some (compare m n)) = decide (m - n = 0) := by
  show (compare m n == .eq) = _
  rw [Bool.eq_iff_iff, beq_iff_eq, compare_eq_iff_eq, decide_eq_true_eq]
  omega

end ComparisonOp

namespace Atomic

variable {ctx : ValueContext} {x y : DateTime} {xZone yZone : Option Offset}

/-! ### Instants -/

theorem toUtc_eq_ok_iff {u : DateTime} :
    toUtc x xZone ctx = .ok u ↔ u.nanos = x.nanos - (ctx.zoneOf xZone).nanos := by
  rw [Int.sub_eq_add_neg, ← DateTime.shift?_eq_some_iff]
  unfold toUtc DateTime.toUtc?
  cases x.shift? (-(ctx.zoneOf xZone).nanos) <;> simp

/-- A date-time that stays in the calendar on its way to UTC has an instant. -/
theorem exists_instant (h : (dateTime x xZone).staysInCalendar ctx = true) :
    ∃ u, toUtc x xZone ctx = .ok u ∧ (dateTime x xZone).instant ctx = u.nanos := by
  obtain ⟨u, hu⟩ := exists_toUtc (t := (x, xZone)) rfl h
  exact ⟨u, hu, instant_of_toUtc (t := (x, xZone)) rfl hu⟩

/-- The instant lies behind local time by the offset. -/
theorem instant_eq (h : (dateTime x xZone).staysInCalendar ctx = true) :
    (dateTime x xZone).instant ctx = x.nanos - (ctx.zoneOf xZone).nanos := by
  obtain ⟨u, hu, hinstant⟩ := exists_instant h
  rw [hinstant, toUtc_eq_ok_iff.1 hu]

/-- The difference is the way from one instant to the other, in seconds. -/
theorem sub_dateTime {s : Decimal} (hx : (dateTime x xZone).staysInCalendar ctx = true)
    (hy : (dateTime y yZone).staysInCalendar ctx = true)
    (hs : Decimal.ofNanos?
      ((dateTime x xZone).instant ctx - (dateTime y yZone).instant ctx) = some s) :
    arithmetic .sub (dateTime x xZone) (dateTime y yZone) ctx = .ok (dayTimeDuration s) := by
  obtain ⟨u, hu, hxInstant⟩ := exists_instant hx
  obtain ⟨v, hv, hyInstant⟩ := exists_instant hy
  rw [hxInstant, hyInstant] at hs
  rw [arithmetic_sub_temporal rfl rfl]
  show difference ctx x y xZone yZone = _
  simp only [difference, hu, hv, bind, Except.bind, hs, pure, Except.pure]

/-- A move by the difference leads from one instant to the other. -/
theorem add_difference {s : Decimal} {z : Atomic}
    (hx : (dateTime x xZone).staysInCalendar ctx = true)
    (hy : (dateTime y yZone).staysInCalendar ctx = true)
    (hs : s.nanos = (dateTime x xZone).instant ctx - (dateTime y yZone).instant ctx)
    (hz : arithmetic .add (dateTime y yZone) (dayTimeDuration s) ctx = .ok z) :
    Equal ctx z (dateTime x xZone) := by
  obtain ⟨w, hw, rfl⟩ := add_dateTime_eq_ok_iff.1 hz
  obtain ⟨u, hu, hxInstant⟩ := exists_instant hx
  have hyInstant := instant_eq hy
  -- The offset of `y` is taken off both ends of the move.
  have hutc : toUtc w yZone ctx = .ok u := by
    rw [toUtc_eq_ok_iff]
    omega
  have hkind : ∀ k, AtomicType.dateTime ≠ .fragment k := nofun
  have hequal : Equal ctx (dateTime w yZone) (dateTime x xZone) ↔ _ :=
    equal_times_iff (s := (w, yZone)) (t := (x, xZone)) rfl rfl rfl hkind
  exact hequal.2 ⟨u, u, hutc, hu, rfl⟩

/-! ### Comparison and difference -/

/-- For date-times with an instant, with or without timezones of their own, the difference is
    known, exact to the nanosecond, and taken the other way round it is the opposite. It is
    negative exactly for an earlier date-time and zero exactly for an equal one, and moving the
    subtracted date-time by it leads to a date-time equal to the other one, if it leads anywhere. -/
theorem difference_inverts_moves (hx : (dateTime x xZone).staysInCalendar ctx = true)
    (hy : (dateTime y yZone).staysInCalendar ctx = true) :
    ∃ s : Decimal,
      s.value * nanosPerSecond =
        ((dateTime x xZone).instant ctx - (dateTime y yZone).instant ctx : Int) ∧
      arithmetic .sub (dateTime x xZone) (dateTime y yZone) ctx = .ok (dayTimeDuration s) ∧
      minus (dayTimeDuration s) = .ok (dayTimeDuration s.neg) ∧
      arithmetic .sub (dateTime y yZone) (dateTime x xZone) ctx = .ok (dayTimeDuration s.neg) ∧
      compareBy .lt (dateTime x xZone) (dateTime y yZone) ctx = .ok (decide (s.value < 0)) ∧
      compareBy .eq (dateTime x xZone) (dateTime y yZone) ctx = .ok (decide (s.value = 0)) ∧
      ∀ z, arithmetic .add (dateTime y yZone) (dayTimeDuration s) ctx = .ok z →
        compareBy .eq z (dateTime x xZone) ctx = .ok true := by
  obtain ⟨u, -, hxInstant⟩ := exists_instant hx
  obtain ⟨v, -, hyInstant⟩ := exists_instant hy
  obtain ⟨s, hs⟩ := exists_seconds u v
  obtain ⟨t, ht⟩ := exists_seconds v u
  rw [← hxInstant, ← hyInstant] at hs ht
  have hvalue := (Decimal.of_ofNanos? hs).2
  have hopposite : t = s.neg := Decimal.eq_neg_of_ofNanos? hs (by rw [Int.neg_sub, ht])
  have hkind : ∀ k, AtomicType.dateTime ≠ .fragment k := nofun
  have hrelate := relate?_instant (a := dateTime x xZone) (b := dateTime y yZone)
    (s := (x, xZone)) (t := (y, yZone)) rfl rfl rfl hkind hx hy
  refine ⟨s, hvalue, sub_dateTime hx hy hs, rfl, hopposite ▸ sub_dateTime hy hx ht, ?_, ?_, ?_⟩
  · rw [compareBy_of_ordered hrelate, ComparisonOp.holds_lt]
    exact congrArg Except.ok (decide_eq_decide.2 (Decimal.value_neg_iff hvalue).symm)
  · rw [compareBy_of_ordered hrelate, ComparisonOp.holds_eq]
    exact congrArg Except.ok (decide_eq_decide.2 (Decimal.value_eq_zero_iff hvalue).symm)
  · intro z hz
    exact add_difference hx hy (Decimal.nanos_of_ofNanos? hs) hz

/-- Half a second to midnight in the implicit timezone, two hours ahead of UTC, less a time of the
    day before in another timezone: the move leads to the same instant as local time there. -/
theorem difference_inverts_moves_zones :
    let ctx : ValueContext := ⟨⟨7200, by decide, by decide⟩, []⟩
    let dayBefore : Date := ⟨2024, 2, 29, by decide, by decide, by decide⟩
    let day : Date := ⟨2024, 3, 1, by decide, by decide, by decide⟩
    let dayAfter : Date := ⟨2024, 3, 2, by decide, by decide, by decide⟩
    let zone : Option Offset := some ⟨19800, by decide, by decide⟩
    let x : Atomic := dateTime ⟨day, ⟨86399500000000, by decide⟩⟩ none
    let y : Atomic := dateTime ⟨dayBefore, ⟨10800000000001, by decide⟩⟩ zone
    let z : Atomic := dateTime ⟨dayAfter, ⟨12599500000000, by decide⟩⟩ zone
    let s : Decimal := ⟨174599499999999, 9, by decide, by decide⟩
    x.staysInCalendar ctx = true ∧ y.staysInCalendar ctx = true ∧
      arithmetic .sub x y ctx = .ok (dayTimeDuration s) ∧
      arithmetic .sub y x ctx = .ok (dayTimeDuration s.neg) ∧
      compareBy .lt x y ctx = .ok (decide (s.value < 0)) ∧
      arithmetic .add y (dayTimeDuration s) ctx = .ok z ∧ compareBy .eq z x ctx = .ok true := by
  intro ctx dayBefore day dayAfter zone x y z s
  have hx : x.staysInCalendar ctx = true := by decide +kernel
  have hy : y.staysInCalendar ctx = true := by decide +kernel
  have hsub : arithmetic .sub x y ctx = .ok (dayTimeDuration s) := by decide +kernel
  have hadd : arithmetic .add y (dayTimeDuration s) ctx = .ok z := by decide +kernel
  obtain ⟨r, -, hr, -, hopposite, hlt, -, hmove⟩ := difference_inverts_moves hx hy
  -- There is only one difference.
  rw [hsub] at hr
  cases hr
  exact ⟨hx, hy, hsub, hopposite, hlt, hadd, hmove z hadd⟩

end Atomic

end XPathData
