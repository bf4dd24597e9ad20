import XPathData.Calendar.Date
import XPathData.Bounded
import XPathData.Decimal.Arithmetic

/-! # Times of day and local date-times

  A time of day counts nanoseconds from midnight; days have no leap seconds. A
  local date-time lies on a time line of nanoseconds. An offset tells how far
  local time is ahead of UTC.
-/

namespace XPathData

/-- Nanoseconds of a second. -/
def nanosPerSecond : Nat := 1000000000

/-- Nanoseconds of a day. -/
def nanosPerDay : Nat := 86400 * nanosPerSecond

/-! ### Offsets -/

/-- Seconds that local time is ahead of UTC; less than a day. -/
abbrev Offset := Bounded (-86399) 86399

namespace Offset

/-- The offset of UTC itself. -/
def utc : Offset := ⟨0, by decide, by decide⟩

/-- The offset in nanoseconds. -/
def nanos (o : Offset) : Int := o.val * nanosPerSecond

end Offset

/-! ### Times of day -/

/-- A time of day. -/
structure Clock where
  /-- Nanoseconds since midnight. -/
  nanos : Nat
  nanos_lt : nanos < nanosPerDay
  deriving DecidableEq, Repr

namespace Clock

/-- The start of a day. -/
def midnight : Clock := ⟨0, by decide⟩

/-- The time with these fields, if there is one. -/
def ofFields? (hour minute second nanos : Nat) : Option Clock :=
  if h : hour < 24 ∧ minute < 60 ∧ second < 60 ∧ nanos < nanosPerSecond then
    some ⟨(hour * 3600 + minute * 60 + second) * nanosPerSecond + nanos, by
      simp only [nanosPerSecond, nanosPerDay] at *; omega⟩
  else none

/-- The time some nanoseconds later, going round the clock. -/
def shift (c : Clock) (n : Int) : Clock :=
  ⟨((c.nanos + n) % nanosPerDay).toNat, by
    have h : (0 : Int) < nanosPerDay := by decide
    have := Int.emod_lt_of_pos (c.nanos + n) h
    have := Int.emod_nonneg (c.nanos + n) (Int.ne_of_gt h)
    omega⟩

/-- The full hours. -/
def hour (c : Clock) : Nat := c.nanos / nanosPerSecond / 3600

/-- The full minutes of the hour. -/
def minute (c : Clock) : Nat := c.nanos / nanosPerSecond / 60 % 60

/-- The full seconds of the minute. -/
def second (c : Clock) : Nat := c.nanos / nanosPerSecond % 60

/-- The nanoseconds of the second. -/
def subsecond (c : Clock) : Nat := c.nanos % nanosPerSecond

end Clock

/-! ### Local date-times -/

/-- A date and a time of day. -/
structure DateTime where
  /-- The date. -/
  date : Date
  /-- The time of day. -/
  clock : Clock
  deriving DecidableEq, Repr

namespace DateTime

/-- Nanoseconds since the start of the year zero. -/
def nanos (t : DateTime) : Int := t.date.dayNumber * nanosPerDay + t.clock.nanos

/-- The date-time at a point of the time line, if it lies in the calendar. -/
def ofNanos? (n : Int) : Option DateTime :=
  (Date.ofDayNumber? (n / nanosPerDay)).map fun date => ⟨date, Clock.midnight.shift n⟩

/-- The date-time some nanoseconds later, if it lies in the calendar. -/
def shift? (t : DateTime) (n : Int) : Option DateTime := ofNanos? (t.nanos + n)

/-- The start of a day. -/
def startOf (d : Date) : DateTime := ⟨d, .midnight⟩

/-- The day that times without a date are placed on. -/
def anchorDay : Date := ⟨1972, 12, 31, by decide, by decide, by decide⟩

/-- A time of day on the anchor day. -/
def anchored (c : Clock) : DateTime := ⟨anchorDay, c⟩

/-- Brings a local date-time to UTC; none if that leaves the calendar. -/
def toUtc? (t : DateTime) (o : Offset) : Option DateTime := t.shift? (-o.nanos)

end DateTime

/-! ### Seconds as spans of time -/

namespace Decimal

/-- A number of seconds in whole nanoseconds, toward zero. -/
def nanos (seconds : Decimal) : Int :=
  (seconds.coefficient * nanosPerSecond).tdiv (Nat.pow 10 seconds.scale)

/-- Whole nanoseconds as a number of seconds. -/
def ofNanos? (n : Int) : Option Decimal := (ofParts? n 9).map normalize

end Decimal

end XPathData
