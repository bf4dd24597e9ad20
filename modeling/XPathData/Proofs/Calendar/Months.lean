import XPathData.Proofs.Calendar.TimeLine

/-! # Moving by months

  A move by months leads into the month that lies so many months ahead, and there to the same day
  or, where the month is shorter, to its last day. The day is searched for from behind: no month
  ends before the 28th, so the search ends within three steps back. An earlier date never gets
  behind a later one, though two dates can be moved to the same day.

  * `Date.exists_searchEnds` — how the search for the day ends
  * `Date.lastUpTo?_eq` — which day it finds
  * `Date.addMonths?_eq_none_iff` — moves that leave the calendar
  * `Date.addMonths?_mono` — moves keep the order of dates
  * `Atomic.months_move_dates` — sums and differences with a number of months
-/

namespace XPathData

open Calendar

namespace Date

/-! ### The search for the day -/

theorem ofFields?_eq_none {year : Int} {month day : Nat}
    (h : ¬((firstYear ≤ year ∧ year ≤ lastYear) ∧ (1 ≤ month ∧ month ≤ 12) ∧
      (1 ≤ day ∧ day ≤ daysInMonth year month))) : ofFields? year month day = none :=
  dif_neg h

/-- The search that starts with a day goes back so many days, and no further. -/
structure SearchEnds (year : Int) (month day back : Nat) : Prop where
  /-- It goes on as long as the days overshoot. -/
  goes_on : ∀ i < back, overshoots year month (day - i) = true
  /-- Then it ends. -/
  ends : overshoots year month (day - back) = false

/-- The search ends, and the day that it ends with is what it finds. All that it can go back over
    are the days from the 29th on. -/
theorem exists_searchEnds (year : Int) (month day : Nat) :
    ∃ back ≤ day - 28, SearchEnds year month day back ∧
      lastUpTo? year month day = ofFields? year month (day - back) := by
  induction day with
  | zero =>
    have hnone : ofFields? year month 0 = none := ofFields?_eq_none fun h => by omega
    have hends : overshoots year month 0 = false := by simp [overshoots]
    exact ⟨0, Nat.le_refl 0, ⟨nofun, hends⟩, hnone.symm⟩
  | succ day ih =>
    unfold lastUpTo?
    by_cases hover : overshoots year month (day + 1) = true
    · obtain ⟨back, hle, hsearch, hfound⟩ := ih
      -- A day that overshoots is at least the 29th.
      have hlate : 28 < day + 1 := by
        unfold overshoots at hover
        simp only [Bool.and_eq_true, decide_eq_true_eq] at hover
        exact hover.2
      rw [if_pos hover]
      refine ⟨back + 1, by omega, ⟨?_, ?_⟩, ?_⟩
      · intro i hi
        cases i with
        | zero => exact hover
        | succ i =>
          rw [Nat.add_sub_add_right]
          exact hsearch.goes_on i (by omega)
      · rw [Nat.add_sub_add_right]
        exact hsearch.ends
      · rw [Nat.add_sub_add_right]
        exact hfound
    · rw [if_neg hover]
      exact ⟨0, Nat.zero_le _, ⟨nofun, by simpa using hover⟩, rfl⟩

theorem twentyEight_le_daysInMonth (year : Int) (month : Nat) : 28 ≤ daysInMonth year month := by
  unfold daysInMonth
  split
  · split <;> decide
  all_goals decide

/-- The day that is found is the day itself, or the last one of a shorter month. -/
theorem lastUpTo?_eq {year : Int} {month : Nat} (hmonth : 1 ≤ month ∧ month ≤ 12) (day : Nat) :
    lastUpTo? year month day = ofFields? year month (min day (daysInMonth year month)) := by
  have hshort := twentyEight_le_daysInMonth year month
  induction day with
  | zero =>
    rw [Nat.zero_min]
    exact (ofFields?_eq_none fun h => by omega).symm
  | succ day ih =>
    unfold lastUpTo?
    by_cases hin : day + 1 ≤ daysInMonth year month
    · rw [Nat.min_eq_left hin]
      split
      · -- Within the month a day overshoots only where the whole year lies beyond the calendar.
        next hover =>
        have hnone : ofFields? year month (day + 1) = none := by
          unfold overshoots at hover
          simp only [Bool.and_eq_true, Option.isNone_iff_eq_none] at hover
          exact hover.1
        have hyear : ¬(firstYear ≤ year ∧ year ≤ lastYear) := by
          intro hyear
          unfold ofFields? at hnone
          rw [dif_pos ⟨hyear, hmonth, by omega, hin⟩] at hnone
          cases hnone
        rw [hnone, ih]
        exact ofFields?_eq_none fun h => hyear h.1
      · rfl
    · have hnone : ofFields? year month (day + 1) = none := ofFields?_eq_none fun h => hin h.2.2.2
      have hover : overshoots year month (day + 1) = true := by
        simp only [overshoots, hnone, Option.isNone_none, Bool.true_and, decide_eq_true_eq]
        omega
      rw [if_pos hover, ih]
      congr 1
      omega

/-! ### Moves -/

variable {d e d' e' : Date} {n : Int}

theorem addMonths?_eq (d : Date) (n : Int) :
    d.addMonths? n =
      let year := (d.monthIndex + n) / 12
      let month := ((d.monthIndex + n) % 12).toNat + 1
      ofFields? year month (min d.day (daysInMonth year month)) := by
  apply lastUpTo?_eq
  omega

/-- The month so many months ahead lies in a year beyond the calendar. -/
def LeadsOut (d : Date) (n : Int) : Prop :=
  ¬(firstYear ≤ (d.monthIndex + n) / 12 ∧ (d.monthIndex + n) / 12 ≤ lastYear)

theorem addMonths?_eq_none_iff : d.addMonths? n = none ↔ d.LeadsOut n := by
  have hday := d.day_bounds
  have hshort := twentyEight_le_daysInMonth ((d.monthIndex + n) / 12)
    (((d.monthIndex + n) % 12).toNat + 1)
  rw [addMonths?_eq]
  dsimp only
  constructor
  · intro hnone hyear
    unfold ofFields? at hnone
    rw [dif_pos ⟨hyear, by omega, by omega⟩] at hnone
    cases hnone
  · intro hyear
    exact ofFields?_eq_none fun h => hyear h.1

/-- The date `e` lies `n` months ahead, on the same day or the last one of a shorter month. -/
structure LiesAhead (d : Date) (n : Int) (e : Date) : Prop where
  /-- The months in between. -/
  monthIndex_eq : e.monthIndex = d.monthIndex + n
  /-- The day of the month. -/
  day_eq : e.day = min d.day (daysInMonth e.year e.month)

theorem liesAhead_of_addMonths? (h : d.addMonths? n = some e) : d.LiesAhead n e := by
  rw [addMonths?_eq] at h
  obtain ⟨hyear, hmonth, hday⟩ := ofFields?_eq_some h
  constructor
  · unfold monthIndex
    rw [hyear, hmonth]
    unfold monthIndex
    omega
  · rw [hday, hyear, hmonth]

/-! ### The order of dates -/

theorem dayNumber_lt_of_monthIndex_lt (h : d.monthIndex < e.monthIndex) :
    d.dayNumber < e.dayNumber := by
  have hd := d.dayNumber_bounds
  have he := e.dayNumber_bounds
  have hdMonth := d.month_bounds
  have heMonth := e.month_bounds
  unfold monthIndex at h
  by_cases hyear : d.year < e.year
  · have hmono := daysBeforeYear_mono (show d.year + 1 ≤ e.year by omega)
    omega
  · have hsame : d.year = e.year := by omega
    -- In one year the months follow each other.
    have hlast := d.daysBeforeMonth_lt_dayNumber
    have hmono := daysBeforeMonth_mono d.year (show 1 ≤ d.month + 1 by omega)
      (show d.month + 1 ≤ e.month by omega)
    unfold dayNumber
    rw [← hsame]
    omega

/-- Dates are ordered by their months, and in one month by their days. -/
theorem dayNumber_le_iff :
    d.dayNumber ≤ e.dayNumber ↔
      d.monthIndex < e.monthIndex ∨ d.monthIndex = e.monthIndex ∧ d.day ≤ e.day := by
  rcases Int.lt_trichotomy d.monthIndex e.monthIndex with hlt | heq | hgt
  · exact iff_of_true (dayNumber_lt_of_monthIndex_lt hlt).le (.inl hlt)
  · have hd := d.day_bounds
    have he := e.day_bounds
    have hdMonth := d.month_bounds
    have heMonth := e.month_bounds
    have hfields : d.year = e.year ∧ d.month = e.month := by
      unfold monthIndex at heq
      omega
    unfold dayNumber
    rw [hfields.1, hfields.2]
    omega
  · have hback := dayNumber_lt_of_monthIndex_lt hgt
    omega

/-- A month lies as many months ahead of an earlier date as of a later one, or before. -/
theorem addMonths?_mono (hle : d.dayNumber ≤ d'.dayNumber) (h : d.addMonths? n = some e)
    (h' : d'.addMonths? n = some e') : e.dayNumber ≤ e'.dayNumber := by
  have hahead := liesAhead_of_addMonths? h
  have hahead' := liesAhead_of_addMonths? h'
  have hmonth := hahead.monthIndex_eq
  have hmonth' := hahead'.monthIndex_eq
  rw [dayNumber_le_iff] at hle ⊢
  rcases hle with hlt | ⟨heq, hday⟩
  · left
    omega
  · -- Both are moved into one month, whose length cuts the later day at least as much.
    right
    have hsame : e.year = e'.year ∧ e.month = e'.month := by
      have heMonth := e.month_bounds
      have heMonth' := e'.month_bounds
      unfold monthIndex at hmonth hmonth' heq
      omega
    refine ⟨by omega, ?_⟩
    rw [hahead.day_eq, hahead'.day_eq, hsame.1, hsame.2]
    omega

end Date

/-! ### Operators -/

namespace Atomic

variable {ctx : ValueContext} {op : ArithmeticOp}

theorem arithmetic_date_months (hop : op = .add ∨ op = .sub) (d : Date) (zone : Option Offset)
    (m : Signed32) :
    arithmetic op (date d zone) (yearMonthDuration m) ctx =
      shifted (d.addMonths? (op.direction * m.val)) fun e => date e zone :=
  arithmetic_of_shift hop rfl

theorem arithmetic_dateTime_months (hop : op = .add ∨ op = .sub) (d : Date) (c : Clock)
    (zone : Option Offset) (m : Signed32) :
    arithmetic op (dateTime ⟨d, c⟩ zone) (yearMonthDuration m) ctx =
      shifted (d.addMonths? (op.direction * m.val)) fun e => dateTime ⟨e, c⟩ zone :=
  arithmetic_of_shift hop rfl

/-- Months without an opposite of 32 bits are more than the calendar has. -/
theorem leadsOut_of_neg?_eq_none {m : Signed32} (d : Date) (h : m.neg? = none) :
    d.LeadsOut (ArithmeticOp.direction .sub * m.val) := by
  have hyear := d.year_bounds
  have hmonth := d.month_bounds
  have hlow := m.low_le
  have hhigh := m.le_high
  have hopposite := Bounded.ofInt?_eq_none_iff.1 h
  show ¬(firstYear ≤ (d.monthIndex + -1 * m.val) / 12 ∧ (d.monthIndex + -1 * m.val) / 12 ≤ lastYear)
  unfold Date.monthIndex
  unfold firstYear lastYear at *
  omega

/-- Months move dates, alone or with a time of day, and keep the time and the timezone. A sum or
    difference is an error exactly if its month lies in a year beyond the calendar, or if months
    without an opposite are subtracted. Otherwise it lies in the month so many months ahead, on the
    same day or on the last day of a shorter month. The search for this day ends within three steps
    back, and of two dates the earlier one never gets behind the later one. -/
theorem months_move_dates (hop : op = .add ∨ op = .sub) (d : Date) (c : Clock)
    (zone : Option Offset) (m : Signed32) (ctx : ValueContext) :
    (d.LeadsOut (op.direction * m.val) ∨ op = .sub ∧ m.neg? = none →
      arithmetic op (date d zone) (yearMonthDuration m) ctx = .error (.error dateTimeOverflow) ∧
      arithmetic op (dateTime ⟨d, c⟩ zone) (yearMonthDuration m) ctx =
        .error (.error dateTimeOverflow)) ∧
    (¬(d.LeadsOut (op.direction * m.val) ∨ op = .sub ∧ m.neg? = none) →
      ∃ e, d.LiesAhead (op.direction * m.val) e ∧
        arithmetic op (date d zone) (yearMonthDuration m) ctx = .ok (date e zone) ∧
        arithmetic op (dateTime ⟨d, c⟩ zone) (yearMonthDuration m) ctx =
          .ok (dateTime ⟨e, c⟩ zone)) ∧
    (∀ year month, ∃ back ≤ 3, Date.SearchEnds year month d.day back ∧
      Date.lastUpTo? year month d.day = Date.ofFields? year month (d.day - back)) ∧
    ∀ d' e e' : Date, d.dayNumber ≤ d'.dayNumber →
      arithmetic op (date d zone) (yearMonthDuration m) ctx = .ok (date e zone) →
      arithmetic op (date d' zone) (yearMonthDuration m) ctx = .ok (date e' zone) →
      e.dayNumber ≤ e'.dayNumber := by
  rw [arithmetic_date_months hop, arithmetic_dateTime_months hop]
  refine ⟨?_, ?_, ?_, ?_⟩
  · intro hout
    have hleads : d.LeadsOut (op.direction * m.val) := by
      rcases hout with hleads | ⟨rfl, hopposite⟩
      · exact hleads
      · exact leadsOut_of_neg?_eq_none d hopposite
    rw [Date.addMonths?_eq_none_iff.2 hleads]
    exact ⟨rfl, rfl⟩
  · intro hin
    obtain ⟨e, he⟩ := Option.ne_none_iff_exists'.1
      (mt Date.addMonths?_eq_none_iff.1 fun hleads => hin (.inl hleads))
    rw [he]
    exact ⟨e, Date.liesAhead_of_addMonths? he, rfl, rfl⟩
  · intro year month
    obtain ⟨back, hle, hsearch⟩ := Date.exists_searchEnds year month d.day
    have hday := d.day_bounds
    have hlong := daysInMonth_le d.year d.month
    exact ⟨back, by omega, hsearch⟩
  · intro d' e e' hle h h'
    rw [arithmetic_date_months hop] at h'
    obtain ⟨f, hf, hdate⟩ := shifted_eq_ok_iff.1 h
    obtain ⟨f', hf', hdate'⟩ := shifted_eq_ok_iff.1 h'
    cases hdate
    cases hdate'
    exact Date.addMonths?_mono hle hf hf'

/-- A month before the last days of March and the first of April. -/
theorem months_move_dates_end_of_february :
    let march : Date := ⟨2024, 3, 31, by decide, by decide, by decide⟩
    let april : Date := ⟨2024, 4, 1, by decide, by decide, by decide⟩
    let lastOfFebruary : Date := ⟨2024, 2, 29, by decide, by decide, by decide⟩
    let firstOfMarch : Date := ⟨2024, 3, 1, by decide, by decide, by decide⟩
    let month : Signed32 := ⟨1, by decide, by decide⟩
    ¬(march.LeadsOut (ArithmeticOp.direction .sub * month.val) ∨
        ArithmeticOp.sub = .sub ∧ month.neg? = none) ∧
      march.dayNumber ≤ april.dayNumber ∧
      arithmetic .sub (date march none) (yearMonthDuration month) .standard =
        .ok (date lastOfFebruary none) ∧
      arithmetic .sub (date april none) (yearMonthDuration month) .standard =
        .ok (date firstOfMarch none) ∧
      march.LiesAhead (ArithmeticOp.direction .sub * month.val) lastOfFebruary ∧
      lastOfFebruary.dayNumber ≤ firstOfMarch.dayNumber := by
  intro march april lastOfFebruary firstOfMarch month
  have hin : ¬(march.LeadsOut (ArithmeticOp.direction .sub * month.val) ∨
      ArithmeticOp.sub = .sub ∧ month.neg? = none) := by
    unfold Date.LeadsOut
    decide
  have hle : march.dayNumber ≤ april.dayNumber := by decide
  have hmarch : arithmetic .sub (date march none) (yearMonthDuration month) .standard =
      .ok (date lastOfFebruary none) := by decide +kernel
  have hapril : arithmetic .sub (date april none) (yearMonthDuration month) .standard =
      .ok (date firstOfMarch none) := by decide +kernel
  obtain ⟨-, hahead, -, hmono⟩ :=
    months_move_dates (.inr rfl) march .midnight none month .standard
  obtain ⟨e, he, hdate, -⟩ := hahead hin
  rw [hmarch] at hdate
  cases hdate
  exact ⟨hin, hle, hmarch, hapril, he, hmono april _ _ hle hmarch hapril⟩

end Atomic

end XPathData
