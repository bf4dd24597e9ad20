import XPathData.Calendar.DateTime
import XPathData.Text.Space
import XPathData.Text.Digits

/-! # Date and time literals

  A literal is read from its end: first the timezone, then the fields between
  their separators. Text outside the form is malformed; a field that names no day
  or time is out of range. Which of two faults is reported follows from the order
  in which the fields are read.
-/

namespace XPathData

/-- Why a literal has no value. -/
inductive LexicalFault where
  /-- The text does not have the form of a literal. -/
  | malformed
  /-- The text has the form, but its fields name nothing. -/
  | outOfRange
  deriving DecidableEq, Repr

/-- The value of a literal, or its fault. -/
abbrev Reading (α : Type) := Except LexicalFault α

namespace Reading

/-- No value means malformed text. -/
def orMalformed {α : Type} : Option α → Reading α
  | some a => .ok a
  | none => .error .malformed

/-- No value means fields out of range. -/
def orOutOfRange {α : Type} : Option α → Reading α
  | some a => .ok a
  | none => .error .outOfRange

end Reading

namespace Calendar

open Text Reading

/-! ### Fields -/

/-- Exactly two digits. -/
def readTwoDigits : List Char → Reading Nat
  | [a, b] => if isDigit a && isDigit b then .ok (readDigits [a, b]) else .error .malformed
  | _ => .error .malformed

/-- A year: an optional minus and at least four digits, the first not zero if there
    are more. It has 32 bits and is not zero. -/
def readYear (s : List Char) : Reading Int := do
  let (negative, digits) := match s with
    | '-' :: rest => (true, rest)
    | _ => (false, s)
  if digits.length < 4 || !digits.all isDigit ||
      (decide (4 < digits.length) && digits.head? == some '0') then
    throw .malformed
  let magnitude : Int := readDigits digits
  let year : Signed32 ← orOutOfRange (Bounded.ofInt? (if negative then -magnitude else magnitude))
  if year.val = 0 then throw .outOfRange
  return year.val

/-- A month from 01 to 12. -/
def readMonth (s : List Char) : Reading Nat := do
  let month ← readTwoDigits s
  if 1 ≤ month ∧ month ≤ 12 then return month else throw .outOfRange

/-- A day from 01 to 31. -/
def readDay (s : List Char) : Reading Nat := do
  let day ← readTwoDigits s
  if 1 ≤ day ∧ day ≤ 31 then return day else throw .outOfRange

/-! ### Timezones -/

/-- The parts of a text that ends with a sign, two bytes, a colon and two bytes:
    what stands before the sign, whether it is a minus, and the two pairs. -/
def zoneParts? (s : List Char) : Option (List Char × Bool × List Char × List Char) := do
  -- From the end: the minutes, the colon, the hours, the sign.
  let (minutes, rest) ← takeBytes 2 s.reverse
  let (hours, rest) ← match rest with
    | ':' :: rest => takeBytes 2 rest
    | _ => none
  match rest with
  | '+' :: rest => return (rest.reverse, false, hours.reverse, minutes.reverse)
  | '-' :: rest => return (rest.reverse, true, hours.reverse, minutes.reverse)
  | _ => none

/-- Takes a timezone off the end: a `Z`, or a sign with hours and minutes up to 14:00. -/
def takeZone (s : List Char) : Reading (List Char × Option Offset) :=
  if s.getLast? = some 'Z' then .ok (s.dropLast, some Offset.utc)
  else match zoneParts? s with
    | none => .ok (s, none)
    | some (body, negative, hours, minutes) => do
      let hours ← readTwoDigits hours
      let minutes ← readTwoDigits minutes
      if 14 < hours ∨ 59 < minutes ∨ (hours = 14 ∧ minutes ≠ 0) then throw .outOfRange
      let seconds : Int := hours * 3600 + minutes * 60
      let offset ← orOutOfRange (Bounded.ofInt? (if negative then -seconds else seconds))
      return (body, some offset)

/-- The text without white space around it, and its timezone apart. -/
def takeZoneTrimmed (s : List Char) : Reading (List Char × Option Offset) :=
  takeZone (trim isUnicodeSpace s)

/-! ### Dates and times -/

/-- A date `year-month-day`. -/
def readDateFields (s : List Char) : Reading Date := do
  -- From the end, since the year may start with a minus sign.
  let (rest, day) ← orMalformed (splitLast '-' s)
  let (year, month) ← orMalformed (splitLast '-' rest)
  let year ← readYear year
  let month ← readTwoDigits month
  let day ← readTwoDigits day
  orOutOfRange (Date.ofFields? year month day)

/-- Nanoseconds of a decimal fraction, further digits left out. -/
def readFraction (digits : List Char) : Nat :=
  readDigits (digits.take 9 ++ List.replicate (9 - digits.length) '0')

/-- A time `hour:minute:second` with an optional fraction. The hour 24 stands for the
    end of the day when all else is zero; the flag tells that it was used. -/
def readClockFields (s : List Char) : Reading (Clock × Bool) := do
  let (hour, rest) ← orMalformed (splitFirst ':' s)
  let (minute, rest) ← orMalformed (splitFirst ':' rest)
  let hour ← readTwoDigits hour
  let minute ← readTwoDigits minute
  let (second, fraction) := match splitFirst '.' rest with
    | some (second, fraction) => (second, some fraction)
    | none => (rest, none)
  let second ← readTwoDigits second
  let digits := fraction.getD []
  -- A point needs at least one digit behind it.
  if !digits.all isDigit || fraction == some [] then throw .malformed
  let nanos := readFraction digits
  if hour = 24 then
    if minute = 0 ∧ second = 0 ∧ nanos = 0 then return (.midnight, true)
    else throw .outOfRange
  let clock ← orOutOfRange (Clock.ofFields? hour minute second nanos)
  return (clock, false)

/-- A date with an optional timezone. -/
def readDate (s : List Char) : Reading (Date × Option Offset) := do
  let (body, zone) ← takeZoneTrimmed s
  return (← readDateFields body, zone)

/-- A time with an optional timezone. -/
def readTime (s : List Char) : Reading (Clock × Option Offset) := do
  let (body, zone) ← takeZoneTrimmed s
  return ((← readClockFields body).1, zone)

/-- A date, a `T` and a time, with an optional timezone. The end of a day is the
    start of the next one. -/
def readDateTime (s : List Char) : Reading (DateTime × Option Offset) := do
  let (body, zone) ← takeZoneTrimmed s
  let (date, time) ← orMalformed (splitFirst 'T' body)
  let date ← readDateFields date
  let (clock, endOfDay) ← readClockFields time
  -- Hour 24 has given midnight, which is that of the next day.
  let date ← if endOfDay then orOutOfRange (date.addDays? 1) else pure date
  return (⟨date, clock⟩, zone)

end Calendar

/-! ### Fragments of dates -/

/-- A recurring or coarse date. -/
inductive Fragment where
  /-- A year, also one beyond the calendar. -/
  | year (year : Int)
  /-- A month of a year. -/
  | yearMonth (year : Int) (month : Nat)
  /-- A month of every year. -/
  | month (month : Nat)
  /-- A day of every year. -/
  | monthDay (month day : Nat)
  /-- A day of every month. -/
  | day (day : Nat)
  deriving DecidableEq, Repr

/-- Which fields a fragment has. -/
inductive FragmentKind where
  | yearMonth
  | year
  | monthDay
  | day
  | month
  deriving DecidableEq, Repr

namespace Fragment

open Text Reading Calendar

/-- The fields that a fragment has. -/
def kind : Fragment → FragmentKind
  | year _ => .year
  | yearMonth .. => .yearMonth
  | month _ => .month
  | monthDay .. => .monthDay
  | day _ => .day

/-- The fragment of a date with the given fields. -/
def ofDate (d : Date) : FragmentKind → Fragment
  | .year => year d.year
  | .yearMonth => yearMonth d.year d.month
  | .month => month d.month
  | .monthDay => monthDay d.month d.day
  | .day => day d.day

/-- The text without a mark at its front. -/
def afterMark (mark : String) (s : List Char) : Reading (List Char) :=
  orMalformed (dropLead? mark.toList s)

/-- The fields of a fragment literal. A day of every year is a day of a leap year. -/
def readFields (s : List Char) : FragmentKind → Reading Fragment
  | .year => year <$> readYear s
  | .yearMonth => do
    let (y, m) ← orMalformed (splitLast '-' s)
    return yearMonth (← readYear y) (← readMonth m)
  | .month => do
    return month (← readMonth (← afterMark "--" s))
  | .monthDay => do
    let (m, d) ← orMalformed (splitFirst '-' (← afterMark "--" s))
    let m ← readMonth m
    let d ← readDay d
    if daysInMonth 2000 m < d then throw .outOfRange
    return monthDay m d
  | .day => do
    return day (← readDay (← afterMark "---" s))

/-- A fragment literal with an optional timezone. -/
def read (k : FragmentKind) (s : List Char) : Reading (Fragment × Option Offset) := do
  let (body, zone) ← takeZoneTrimmed s
  return (← readFields body k, zone)

end Fragment

end XPathData
