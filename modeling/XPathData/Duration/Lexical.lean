import XPathData.Calendar.Lexical
import XPathData.Decimal.Text

/-! # Duration literals

  A duration literal is an optional minus, a `P`, years, months and days in this
  order, and after a `T` hours, minutes and seconds. Each component is a run of
  digits before its letter; seconds may have a fraction. Months and seconds are
  totalled apart.
-/

namespace XPathData

/-- What a duration literal denotes. -/
structure DurationLiteral where
  /-- All months, with the sign of the literal. -/
  months : Int
  /-- All seconds, with the sign of the literal. -/
  seconds : Decimal
  /-- The literal has years or months. -/
  hasMonths : Bool
  /-- The literal has days, hours, minutes or seconds. -/
  hasSeconds : Bool
  deriving DecidableEq, Repr

namespace DurationLiteral

open Text Reading

/-! ### Components -/

/-- Cuts a text into numerals and the letters after them, which come in the order of
    `letters`. A point may stand in a numeral before `S` if `point` is set. -/
def components (point : Bool) :
    List Char → List Char → List Char → Reading (List (List Char × Char))
  | _, numeral, [] => if numeral.isEmpty then .ok [] else .error .malformed
  | letters, numeral, c :: rest =>
    if isDigit c || (c == '.' && point) then components point letters (numeral ++ [c]) rest
    else match letters.dropWhile (· != c) with
      | [] => .error .malformed
      | _ :: later =>
        if numeral.isEmpty || (numeral.contains '.' && c != 'S') then .error .malformed
        else ((numeral, c) :: ·) <$> components point later [] rest

/-- A numeral of a whole component; it has 64 bits. -/
def readWhole (numeral : List Char) : Reading Signed64 :=
  orMalformed (Bounded.ofInt? (readDigits numeral))

/-- A numeral of seconds, with digits on both sides of a point. -/
def readSeconds (numeral : List Char) : Reading Decimal :=
  if numeral.head? = some '.' ∨ numeral.getLast? = some '.' then .error .malformed
  else orMalformed (Decimal.read? numeral)

/-! ### Totals -/

/-- Adds `n * factor` months; every step has 64 bits. -/
def addMonths (l : DurationLiteral) (n factor : Signed64) : Reading DurationLiteral := do
  let product : Signed64 ← orOutOfRange (n.mul? factor)
  let total : Signed64 ← orOutOfRange (Bounded.ofInt? (product.val + l.months))
  return { l with months := total.val, hasMonths := true }

/-- Adds `n` units of some seconds. -/
def addSeconds (l : DurationLiteral) (n unit : Decimal) : Reading DurationLiteral := do
  let product ← orOutOfRange (n.mul? unit)
  let total ← orOutOfRange (product.add? l.seconds)
  return { l with seconds := total, hasSeconds := true }

/-- The seconds of a unit of time. -/
def unit (letter : Char) : Decimal :=
  match letter with
  | 'D' => ⟨86400, 0, by decide, Decimal.no_places_le⟩
  | 'H' => ⟨3600, 0, by decide, Decimal.no_places_le⟩
  | 'M' => ⟨60, 0, by decide, Decimal.no_places_le⟩
  | _ => ⟨1, 0, by decide, Decimal.no_places_le⟩

/-- Adds a component that stands before the `T`. -/
def addDateComponent (l : DurationLiteral) (c : List Char × Char) : Reading DurationLiteral := do
  let n ← readWhole c.1
  match c.2 with
  | 'Y' => l.addMonths n ⟨12, by decide, by decide⟩
  | 'M' => l.addMonths n ⟨1, by decide, by decide⟩
  | letter => l.addSeconds (Decimal.ofSigned64 n) (unit letter)

/-- Adds a component that stands after the `T`. -/
def addTimeComponent (l : DurationLiteral) (c : List Char × Char) : Reading DurationLiteral := do
  if c.2 = 'S' then l.addSeconds (← readSeconds c.1) (unit 'S')
  else l.addSeconds (Decimal.ofSigned64 (← readWhole c.1)) (unit c.2)

/-- The literal with the opposite sign. -/
def neg (l : DurationLiteral) : DurationLiteral :=
  { l with months := -l.months, seconds := l.seconds.neg }

/-! ### Reading -/

/-- Reads the components after the `P`. -/
def readComponents (s : List Char) : Reading DurationLiteral := do
  let (dateText, timeText) := match splitFirst 'T' s with
    | some (d, t) => (d, some t)
    | none => (s, none)
  if timeText = some [] then throw .malformed
  let dateComponents ← components false ['Y', 'M', 'D'] [] dateText
  let l ← dateComponents.foldlM addDateComponent ⟨0, .zero, false, false⟩
  let timeComponents ← components true ['H', 'M', 'S'] [] (timeText.getD [])
  let l ← timeComponents.foldlM addTimeComponent l
  if dateComponents.isEmpty && timeComponents.isEmpty then throw .malformed
  return l

/-- Reads a duration literal without white space around it. -/
def read (s : List Char) : Reading DurationLiteral := do
  let (negative, rest) := match trim isUnicodeSpace s with
    | '-' :: rest => (true, rest)
    | rest => (false, rest)
  let l ← readComponents (← orMalformed (dropLead? ['P'] rest))
  return if negative then l.neg else l

/-- The months of a literal of years and months alone. -/
def readMonths (s : List Char) : Reading Signed32 := do
  let l ← read s
  if l.hasSeconds then throw .malformed
  orOutOfRange (Bounded.ofInt? l.months)

/-- The seconds of a literal of days and times alone. -/
def readDayTime (s : List Char) : Reading Decimal := do
  let l ← read s
  if l.hasMonths then throw .malformed
  return l.seconds

end DurationLiteral

end XPathData
