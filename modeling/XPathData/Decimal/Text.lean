import XPathData.Decimal.Basic
import XPathData.Text.Digits
import XPathData.Text.Split

/-! # Decimal numbers as text

  A decimal number is written in normal form, with a point only before decimal
  places. Reading takes an optional sign, digits and an optional fraction, and
  rounds at the first digit that no longer fits.
-/

namespace XPathData.Decimal

open Text

/-! ### Writing -/

/-- The text of the number: sign, whole part, and the places after a point. -/
def text (a : Decimal) : String :=
  let n := a.normalize
  let digits := writePadded (n.scale + 1) n.coefficient.natAbs
  let wholeDigits := digits.take (digits.length - n.scale)
  let places := digits.drop (digits.length - n.scale)
  String.ofList <|
    (if n.coefficient < 0 then ['-'] else []) ++ wholeDigits ++
      (if n.scale = 0 then [] else '.' :: places)

/-! ### Reading -/

/-- Digits and places read so far. -/
structure Scan where
  /-- The coefficient, without its sign. -/
  digits : Nat
  /-- The number of places. -/
  places : Nat

/-- Rounds by the first digit that is left out; a five or more rounds up. If the
    carry needs a bit too many, one more place is given up, also rounding. -/
def Scan.roundBy (p : Scan) (next : Nat) : Option Scan :=
  if next < 5 then some p
  else if p.digits + 1 < coefficientLimit then some { p with digits := p.digits + 1 }
  -- The carry has filled the coefficient.
  else if p.places = 0 then none
  else some ⟨Rounding.halfUp (p.digits + 1) 10, p.places - 1⟩

/-- Reads the whole part; a digit too many is an overflow. -/
def readWhole (p : Scan) : List Char → Option Scan
  | [] => some p
  | c :: rest =>
    let n := 10 * p.digits + digitValue c
    if n < coefficientLimit then readWhole { p with digits := n } rest else none

/-- Reads decimal places up to the limits, then rounds by the next digit. -/
def readPlaces (p : Scan) : List Char → Option Scan
  | [] => some p
  | c :: rest =>
    if p.places = 28 then p.roundBy (digitValue c)
    else
      -- A digit that finds no room is the one to round by.
      let n := 10 * p.digits + digitValue c
      if n < coefficientLimit then readPlaces ⟨n, p.places + 1⟩ rest else p.roundBy (digitValue c)

/-- An optional sign, and what follows it. -/
def takeSign : List Char → Bool × List Char
  | '-' :: rest => (true, rest)
  | '+' :: rest => (false, rest)
  | s => (false, s)

/-- The whole part and the fraction around the first point. -/
def takePoint (s : List Char) : List Char × List Char := (splitFirst '.' s).getD (s, [])

/-- Optional sign, digits, optional fraction, and at least one digit. -/
def isLexical (s : List Char) : Bool :=
  let (wholeDigits, places) := takePoint (takeSign s).2
  !(wholeDigits.isEmpty && places.isEmpty) && wholeDigits.all isDigit && places.all isDigit

/-- The number that the text denotes, rounded to what fits; none for other text
    and for a whole part of more than 96 bits. -/
def read? (s : List Char) : Option Decimal :=
  if isLexical s then
    let (negative, rest) := takeSign s
    let (wholeDigits, places) := takePoint rest
    ((readWhole ⟨0, 0⟩ wholeDigits).bind (readPlaces · places)).bind fun p =>
      ofParts? (if negative then -(p.digits : Int) else p.digits) p.places
  else none

end XPathData.Decimal
