import XPathData.Decimal.Arithmetic
import XPathData.Decimal.Text

/-! # Durations as text

  Only components that are not zero are written, after a single sign for all of
  them. A duration of nothing is `PT0S`, or `P0M` if it counts months.
-/

namespace XPathData.Duration

open Text

/-- A component and its letter, unless it is zero. -/
def writeComponent (n : Nat) (letter : Char) : List Char :=
  if n = 0 then [] else writeNat n ++ [letter]

/-- The seconds below a minute and their fraction, unless both are zero. -/
def writeSeconds (seconds : Nat) (fraction : Decimal) : List Char :=
  if seconds = 0 ∧ fraction.isZero then []
  else
    match (Decimal.ofInt? seconds).bind (·.add? fraction) with
    | some total => total.text.toList ++ ['S']
    | none => []

/-- Hours, minutes and seconds after a `T`, unless all are zero. -/
def writeTime (seconds : Nat) (fraction : Decimal) : List Char :=
  let parts := writeComponent (seconds / 3600) 'H' ++ writeComponent (seconds % 3600 / 60) 'M' ++
    writeSeconds (seconds % 60) fraction
  if parts.isEmpty then [] else 'T' :: parts

/-- The components of a number of months and a magnitude of seconds. Whole seconds
    beyond 64 bits are written as the greatest number of 64 bits. -/
def writeParts (months : Nat) (seconds : Decimal) : List Char :=
  let total := min seconds.whole.natAbs 0xFFFFFFFFFFFFFFFF
  writeComponent (months / 12) 'Y' ++ writeComponent (months % 12) 'M' ++
    writeComponent (total / 86400) 'D' ++ writeTime (total % 86400) seconds.fraction

/-- The text of a duration with both months and seconds; `nothing` stands for no
    components. -/
def write (nothing : String) (months : Int) (seconds : Decimal) : String :=
  let parts := writeParts months.natAbs seconds.abs
  let sign := if months < 0 ∨ seconds.coefficient < 0 then ['-'] else []
  String.ofList (sign ++ 'P' :: if parts.isEmpty then nothing.toList else parts)

/-- The text of a duration. -/
def text (months : Int) (seconds : Decimal) : String := write "T0S" months seconds

/-- The text of a duration of months alone. -/
def monthsText (months : Int) : String := write "0M" months .zero

end XPathData.Duration
