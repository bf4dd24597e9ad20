import XPathData.Binary.Shortest
import XPathData.Text.Digits
import XPathData.Text.Split

/-! # Floating-point numbers as text

  Numbers are written with their shortest digits, positionally when they are
  neither small nor large and with an exponent otherwise. Reading rounds the
  exact decimal value once.
-/

namespace XPathData.Binary

open Text

variable {f : BinaryFormat}

/-! ### Writing -/

/-- How numbers are written. -/
structure Layout where
  /-- The least exponent of ten that is written positionally. -/
  plainFrom : Int
  /-- The greatest exponent of ten that is written positionally. -/
  plainTo : Int
  /-- The mark before an exponent. -/
  mark : Char
  /-- What follows a mantissa of a single digit. -/
  bareMantissa : String
  /-- The text of no number. -/
  nan : String
  /-- The text of positive infinity. -/
  infinity : String

/-- The canonical form: positional from a millionth up to a million, otherwise a
    mantissa with at least one decimal place before the exponent. -/
def canonical : Layout := ⟨-6, 5, 'E', ".0", "NaN", "INF"⟩

/-- Digits with a point after the first `n`, filled up with zeros on either side. -/
def positional (digits : List Char) (n : Int) : List Char :=
  if n ≤ 0 then "0.".toList ++ List.replicate (-n).toNat '0' ++ digits
  else if digits.length ≤ n.toNat then digits ++ List.replicate (n.toNat - digits.length) '0'
  else digits.take n.toNat ++ '.' :: digits.drop n.toNat

/-- Digits with a point after the first one, and an exponent. -/
def Layout.scientific (l : Layout) (digits : List Char) (exponent : Int) : List Char :=
  match digits with
  | [] => []
  | [d] => d :: l.bareMantissa.toList ++ l.mark :: writeInt exponent
  | d :: rest => d :: '.' :: rest ++ l.mark :: writeInt exponent

/-- The magnitude of a finite number. -/
def Layout.magnitude (l : Layout) (f : BinaryFormat) (m : Nat) (e : Int) : List Char :=
  if m = 0 then ['0']
  else
    let (c, k) := shortest f m e
    let digits := writeNat c
    let exponent := k + digits.length - 1
    if l.plainFrom ≤ exponent ∧ exponent ≤ l.plainTo then positional digits (exponent + 1)
    else l.scientific digits exponent

/-- The text of a number. -/
def Layout.write (l : Layout) : Binary f → String
  | .nan => l.nan
  | .infinity s => if s then "-" ++ l.infinity else l.infinity
  | .finite s m e => String.ofList ((if s then ['-'] else []) ++ l.magnitude f m e)

/-- The canonical text of a number. -/
def text (x : Binary f) : String := canonical.write x

/-! ### Reading -/

/-- The number nearest to `± digits * 10 ^ exponent`. Far outside the range of the
    format the power of ten is not formed. -/
def ofScientific (f : BinaryFormat) (negative : Bool) (digits : Nat) (exponent : Int) :
    Binary f :=
  let size := exponent + decimalLength digits
  if digits = 0 ∨ size < f.minExponent - f.precision then finite negative 0 f.minExponent
  else if f.maxExponent + f.precision < size then .infinity negative
  else roundRatio f negative (digits * Nat.pow 10 exponent.toNat)
    (Nat.pow 10 (-exponent).toNat)

/-- A sign before digits with an optional fraction, as coefficient and exponent. -/
def readMantissa (s : List Char) : Bool × Nat × Int :=
  let (negative, rest) := match s with
    | '-' :: rest => (true, rest)
    | '+' :: rest => (false, rest)
    | _ => (false, s)
  let (wholeDigits, places) := (splitFirst '.' rest).getD (rest, [])
  (negative, readDigits (wholeDigits ++ places), -(places.length : Int))

/-- A signed run of digits. -/
def readExponent : List Char → Int
  | '-' :: rest => -(readDigits rest : Int)
  | '+' :: rest => readDigits rest
  | rest => readDigits rest

/-- The number that a decimal or scientific literal denotes; the caller has checked
    its form. -/
def ofLiteral (f : BinaryFormat) (s : List Char) : Binary f :=
  let isMark (c : Char) : Bool := c == 'e' || c == 'E'
  let (negative, digits, exponent) := readMantissa (s.takeWhile fun c => !isMark c)
  ofScientific f negative digits (exponent + readExponent ((s.dropWhile fun c => !isMark c).drop 1))

end XPathData.Binary
