import XPathData.Calendar.DateTime

/-! # Day numbers

  Dates and day numbers are two names for the same days: the date of the number of a date is that
  date. The year is found by its mean length, which is off by less than two days over all years,
  and the month by going through the months of the year.

  * `Date.ofDayNumber?_dayNumber` — the number of a date gives the date back
  * `DateTime.ofNanos?_nanos` — so does the point of a date-time on the time line
-/

namespace XPathData

open Calendar

namespace Calendar

/-! ### Years -/

/-- A year has 365 or 366 days. -/
theorem daysBeforeYear_succ (y : Int) :
    daysBeforeYear (y + 1) = daysBeforeYear y + if isLeap y then 366 else 365 := by
  unfold daysBeforeYear isLeap
  have h4 : (y + 1 + 3) / 4 = (y + 3) / 4 + if y % 4 = 0 then 1 else 0 := by split <;> omega
  have h100 : (y + 1 + 99) / 100 = (y + 99) / 100 + if y % 100 = 0 then 1 else 0 := by
    split <;> omega
  have h400 : (y + 1 + 399) / 400 = (y + 399) / 400 + if y % 400 = 0 then 1 else 0 := by
    split <;> omega
  rw [h4, h100, h400]
  -- Every fourth century is a century, and every century a fourth year.
  by_cases hy : y % 4 = 0
  · by_cases hcentury : y % 100 = 0
    · by_cases hfourth : y % 400 = 0
      · simp [hy, hcentury, hfourth]
        omega
      · simp [hy, hcentury, hfourth]
        omega
    · have : ¬ y % 400 = 0 := by omega
      simp [hy, hcentury, this]
      omega
  · have hcentury : ¬ y % 100 = 0 := by omega
    have hfourth : ¬ y % 400 = 0 := by omega
    simp [hy, hcentury, hfourth]
    omega

/-- The days before a year differ from those of mean years by less than two days. -/
theorem daysBeforeYear_near (y : Int) :
    146097 * y - 396 ≤ 400 * daysBeforeYear y ∧ 400 * daysBeforeYear y ≤ 146097 * y + 699 := by
  unfold daysBeforeYear
  omega

/-- A day between the first days of two successive years lies in the first of them. -/
theorem yearOfDay_eq {y n : Int} (hle : daysBeforeYear y ≤ n) (hlt : n < daysBeforeYear (y + 1)) :
    yearOfDay n = y := by
  have hy := daysBeforeYear_near y
  have hnext := daysBeforeYear_near (y + 1)
  have hbefore : y - 1 ≤ 400 * n / 146097 := by omega
  have hafter : 400 * n / 146097 ≤ y + 1 := by omega
  unfold yearOfDay
  -- The estimate is the year before, the year itself, or the year after.
  rcases (by omega : 400 * n / 146097 = y - 1 ∨ 400 * n / 146097 = y ∨ 400 * n / 146097 = y + 1)
    with h | h | h
  · have hyear : daysBeforeYear y = daysBeforeYear (y - 1) + if isLeap (y - 1) then 366 else 365 := by
      rw [← daysBeforeYear_succ, Int.sub_add_cancel]
    have hearlier : daysBeforeYear (y - 1) ≤ n := by split at hyear <;> omega
    simp only [h, Int.sub_add_cancel]
    rw [if_neg (by omega), if_pos hle]
  · simp only [h]
    rw [if_neg (by omega), if_neg (by omega)]
  · simp only [h]
    rw [if_pos hlt]
    omega

/-! ### Months -/

theorem daysInMonth_pos (y : Int) (m : Nat) : 0 < daysInMonth y m := by
  unfold daysInMonth
  split
  · split <;> omega
  all_goals omega

theorem daysInMonth_le (y : Int) (m : Nat) : daysInMonth y m ≤ 31 := by
  unfold daysInMonth
  split
  · split <;> decide
  all_goals decide

theorem daysBeforeMonth_succ (y : Int) {m : Nat} (h : 1 ≤ m) :
    daysBeforeMonth y (m + 1) = daysBeforeMonth y m + daysInMonth y m := by
  unfold daysBeforeMonth
  rw [show m + 1 - 1 = (m - 1) + 1 by omega, List.range_succ, List.foldl_append]
  show _ + daysInMonth y (m - 1 + 1) = _
  rw [Nat.sub_add_cancel h]

theorem daysBeforeMonth_mono (y : Int) {m n : Nat} (hm : 1 ≤ m) (h : m ≤ n) :
    daysBeforeMonth y m ≤ daysBeforeMonth y n := by
  induction n with
  | zero => omega
  | succ n ih =>
    rcases Nat.lt_or_eq_of_le h with hlt | rfl
    · rw [daysBeforeMonth_succ y (by omega)]
      have := ih (by omega)
      omega
    · exact Nat.le_refl _

/-- Going through the months leads to the month that a day lies in. -/
theorem monthDay_eq (y : Int) (i later month target : Nat) (hmonth : 1 ≤ month)
    (hle : month ≤ target) (hlater : target ≤ month + later)
    (hstart : daysBeforeMonth y target ≤ daysBeforeMonth y month + i)
    (hend : daysBeforeMonth y month + i < daysBeforeMonth y (target + 1)) :
    monthDay y i later month =
      (target, daysBeforeMonth y month + i - daysBeforeMonth y target + 1) := by
  induction later generalizing i month with
  | zero =>
    have hsame : month = target := by omega
    subst hsame
    simp [monthDay]
  | succ later ih =>
    have hnext := daysBeforeMonth_succ y hmonth
    unfold monthDay
    rcases Nat.lt_or_eq_of_le hle with hlt | rfl
    · -- The months before the target end before the day.
      have hmono := daysBeforeMonth_mono y (Nat.le_add_left 1 month) hlt
      rw [if_neg (by omega), ih (i - daysInMonth y month) (month + 1) (by omega) hlt (by omega)
        (by omega) (by omega)]
      congr 1
      omega
    · rw [if_pos (by omega)]
      simp

/-- A year has the days of its twelve months. -/
theorem daysBeforeMonth_thirteen (y : Int) :
    daysBeforeMonth y 13 = if isLeap y then 366 else 365 := by
  simp only [daysBeforeMonth, List.range_succ, List.range_zero, daysInMonth]
  cases isLeap y <;> rfl

/-- The next year starts behind the twelve months of a year. -/
theorem daysBeforeYear_succ_months (y : Int) :
    daysBeforeYear (y + 1) = daysBeforeYear y + daysBeforeMonth y 13 := by
  rw [daysBeforeYear_succ, daysBeforeMonth_thirteen]
  split <;> rfl

end Calendar

namespace Date

/-! ### Dates -/

theorem daysBeforeMonth_lt_dayNumber (d : Date) :
    daysBeforeMonth d.year d.month + (d.day - 1) < daysBeforeMonth d.year (d.month + 1) := by
  have hday := d.day_bounds
  rw [daysBeforeMonth_succ d.year d.month_bounds.1]
  omega

/-- The number of a date is one of the days of its year. -/
theorem dayNumber_bounds (d : Date) :
    daysBeforeYear d.year ≤ d.dayNumber ∧ d.dayNumber < daysBeforeYear (d.year + 1) := by
  have hmonth := d.daysBeforeMonth_lt_dayNumber
  have hlast : daysBeforeMonth d.year (d.month + 1) ≤ daysBeforeMonth d.year 13 :=
    daysBeforeMonth_mono d.year (by omega) (by have := d.month_bounds; omega)
  rw [daysBeforeYear_succ_months]
  unfold dayNumber
  omega

/-- The number of a date gives the date back. -/
theorem ofDayNumber?_dayNumber (d : Date) : ofDayNumber? d.dayNumber = some d := by
  have hbounds := d.dayNumber_bounds
  have hmonth := d.month_bounds
  have hindex : (d.dayNumber - daysBeforeYear d.year).toNat =
      daysBeforeMonth d.year d.month + (d.day - 1) := by
    unfold dayNumber
    omega
  have hfirst : daysBeforeMonth d.year 1 = 0 := rfl
  have hday : monthDay d.year (daysBeforeMonth d.year d.month + (d.day - 1)) 11 1 =
      (d.month, d.day) := by
    have hlt := d.daysBeforeMonth_lt_dayNumber
    rw [monthDay_eq d.year _ 11 1 d.month (by omega) hmonth.1 (by omega) (by omega) (by omega)]
    have := d.day_bounds
    congr 1
    omega
  unfold ofDayNumber?
  rw [yearOfDay_eq hbounds.1 hbounds.2]
  dsimp only
  rw [hindex, hday]
  exact ofFields?_fields d

end Date

theorem Clock.ext_nanos {c d : Clock} (h : c.nanos = d.nanos) : c = d := by
  cases c
  cases d
  simp_all

namespace DateTime

/-! ### Date-times -/

/-- The point of a date-time on the time line gives the date-time back. -/
theorem ofNanos?_nanos (t : DateTime) : ofNanos? t.nanos = some t := by
  have hclock := t.clock.nanos_lt
  have hday : t.nanos / nanosPerDay = t.date.dayNumber := by
    unfold nanos
    rw [Int.add_comm, Int.add_mul_ediv_right _ _ (by decide)]
    rw [Int.ediv_eq_zero_of_lt (by omega) (by omega)]
    omega
  have hrest : t.nanos % nanosPerDay = t.clock.nanos := by
    unfold nanos
    rw [Int.add_comm, Int.add_mul_emod_self_right]
    exact Int.emod_eq_of_lt (by omega) (by omega)
  have htime : Clock.midnight.shift t.nanos = t.clock := by
    apply Clock.ext_nanos
    show ((0 + t.nanos) % nanosPerDay).toNat = t.clock.nanos
    rw [Int.zero_add, hrest]
    rfl
  unfold ofNanos?
  rw [hday, htime, Date.ofDayNumber?_dayNumber]
  rfl

/-- Different date-times are different points of the time line. -/
theorem nanos_inj {s t : DateTime} (h : s.nanos = t.nanos) : s = t := by
  have hs := s.ofNanos?_nanos
  rw [h, t.ofNanos?_nanos] at hs
  exact (Option.some.inj hs).symm

end DateTime

end XPathData
