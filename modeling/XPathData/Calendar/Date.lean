/-! # Calendar dates

  The proleptic Gregorian calendar with a year zero, from the year -262143 to the
  year 262142. Dates are counted in days from the first day of the year zero, so
  that shifting a date is adding to its number. A shift by months keeps the day,
  or takes the last day of a shorter month.
-/

namespace XPathData

namespace Calendar

/-! ### Years and months -/

/-- The first year of the calendar. -/
def firstYear : Int := -262143

/-- The last year of the calendar. -/
def lastYear : Int := 262142

/-- A year of 366 days. -/
def isLeap (year : Int) : Bool := year % 4 == 0 && (year % 100 != 0 || year % 400 == 0)

/-- The number of days of a month. -/
def daysInMonth (year : Int) (month : Nat) : Nat :=
  match month with
  | 2 => if isLeap year then 29 else 28
  | 4 | 6 | 9 | 11 => 30
  | _ => 31

/-- The number of days before a year. -/
def daysBeforeYear (year : Int) : Int :=
  365 * year + (year + 3) / 4 - (year + 99) / 100 + (year + 399) / 400

/-- The number of days of a year before a month. -/
def daysBeforeMonth (year : Int) (month : Nat) : Nat :=
  (List.range (month - 1)).foldl (fun days m => days + daysInMonth year (m + 1)) 0

/-- The year that a day number lies in: an estimate by the mean year, put right by
    one year at most. -/
def yearOfDay (n : Int) : Int :=
  let y := 400 * n / 146097
  if n < daysBeforeYear y then y - 1
  else if daysBeforeYear (y + 1) ≤ n then y + 1
  else y

/-- The month and day of the day with index `i` in its year, counted from `month`. -/
def monthDay (year : Int) (i : Nat) : Nat → Nat → Nat × Nat
  | 0, month => (month, i + 1)
  | later + 1, month =>
    if i < daysInMonth year month then (month, i + 1)
    else monthDay year (i - daysInMonth year month) later (month + 1)

end Calendar

open Calendar

/-! ### Dates -/

/-- A day of the calendar. -/
structure Date where
  /-- The year; zero is the year before the year one. -/
  year : Int
  /-- The month, from one. -/
  month : Nat
  /-- The day of the month, from one. -/
  day : Nat
  year_bounds : firstYear ≤ year ∧ year ≤ lastYear
  month_bounds : 1 ≤ month ∧ month ≤ 12
  day_bounds : 1 ≤ day ∧ day ≤ daysInMonth year month
  deriving DecidableEq, Repr

namespace Date

/-- The date with these fields, if there is one. -/
def ofFields? (year : Int) (month day : Nat) : Option Date :=
  if h : (firstYear ≤ year ∧ year ≤ lastYear) ∧ (1 ≤ month ∧ month ≤ 12) ∧
      (1 ≤ day ∧ day ≤ daysInMonth year month) then
    some ⟨year, month, day, h.1, h.2.1, h.2.2⟩
  else none

theorem ofFields?_eq_some {year : Int} {month day : Nat} {d : Date}
    (h : ofFields? year month day = some d) : d.year = year ∧ d.month = month ∧ d.day = day := by
  unfold ofFields? at h
  split at h
  · simp at h; subst h; simp
  · simp at h

@[simp] theorem ofFields?_fields (d : Date) : ofFields? d.year d.month d.day = some d := by
  have h := And.intro d.year_bounds (And.intro d.month_bounds d.day_bounds)
  simp [ofFields?, h]

/-! ### Day numbers -/

/-- The number of days since the first day of the year zero. -/
def dayNumber (d : Date) : Int :=
  daysBeforeYear d.year + daysBeforeMonth d.year d.month + (d.day - 1 : Nat)

/-- The date of a day number, if it lies in the calendar. -/
def ofDayNumber? (n : Int) : Option Date :=
  let year := yearOfDay n
  let (month, day) := monthDay year (n - daysBeforeYear year).toNat 11 1
  ofFields? year month day

/-- The date some days later, if it lies in the calendar. -/
def addDays? (d : Date) (n : Int) : Option Date := ofDayNumber? (d.dayNumber + n)

/-! ### Months -/

/-- The number of months since the first month of the year zero. -/
def monthIndex (d : Date) : Int := 12 * d.year + (d.month - 1 : Nat)

/-- The month has no such day, but it may end on the day before: no month ends before the 28th. -/
def overshoots (year : Int) (month day : Nat) : Bool :=
  (ofFields? year month day).isNone && decide (28 < day)

/-- The date on a day of a month, or on the last day before it that the month has. The days are
    tried one after the other, going back. -/
def lastUpTo? (year : Int) (month : Nat) : Nat → Option Date
  | 0 => none
  | day + 1 =>
    if overshoots year month (day + 1) then lastUpTo? year month day
    else ofFields? year month (day + 1)

/-- The date some months later, on the same day or on the last day of a shorter
    month, if it lies in the calendar. -/
def addMonths? (d : Date) (n : Int) : Option Date :=
  let index := d.monthIndex + n
  lastUpTo? (index / 12) ((index % 12).toNat + 1) d.day

end Date

end XPathData
