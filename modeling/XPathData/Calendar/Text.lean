import XPathData.Calendar.Lexical

/-! # Dates and times as text

  Fields have two digits and years at least four; a fraction of a second ends
  with its last digit that is not zero; the offset of UTC is written `Z`.
-/

namespace XPathData.Calendar

open Text

/-- A year with at least four digits after its sign. -/
def writeYear (year : Int) : List Char :=
  (if year < 0 then ['-'] else []) ++ writePadded 4 year.natAbs

/-- A field of two digits. -/
def writeField (n : Nat) : List Char := writePadded 2 n

/-- Year, month and day between hyphens. -/
def writeDate (d : Date) : List Char :=
  writeYear d.year ++ '-' :: writeField d.month ++ '-' :: writeField d.day

/-- A point and the digits of a fraction of a second, if it is not zero. -/
def writeFraction (nanos : Nat) : List Char :=
  if nanos = 0 then []
  else '.' :: ((writePadded 9 nanos).reverse.dropWhile (· == '0')).reverse

/-- Hour, minute and second between colons, with the fraction. -/
def writeClock (c : Clock) : List Char :=
  writeField c.hour ++ ':' :: writeField c.minute ++ ':' :: writeField c.second ++
    writeFraction c.subsecond

/-- The timezone, if there is one. -/
def writeZone : Option Offset → List Char
  | none => []
  | some o =>
    if o.val = 0 then ['Z']
    else
      (if o.val < 0 then '-' else '+') :: writeField (o.val.natAbs / 3600) ++
        ':' :: writeField (o.val.natAbs % 3600 / 60)

/-- Date and time around a `T`. -/
def writeDateTime (t : DateTime) : List Char := writeDate t.date ++ 'T' :: writeClock t.clock

/-- A fragment with hyphens in place of the fields that it lacks. -/
def writeFragment : Fragment → List Char
  | .year y => writeYear y
  | .yearMonth y m => writeYear y ++ '-' :: writeField m
  | .month m => '-' :: '-' :: writeField m
  | .monthDay m d => '-' :: '-' :: writeField m ++ '-' :: writeField d
  | .day d => '-' :: '-' :: '-' :: writeField d

end XPathData.Calendar
