/-! # Digits

  Decimal digits are the ten ASCII ones. A number is written without leading
  zeros and read from any run of digits.
-/

namespace XPathData.Text

/-- One of the ten ASCII digits. -/
def isDigit (c : Char) : Bool := '0' ≤ c && c ≤ '9'

/-- The value of a digit. -/
def digitValue (c : Char) : Nat := c.toNat - '0'.toNat

/-- The digit of a value below ten. -/
def digitChar (n : Nat) : Char := Char.ofNat ('0'.toNat + n % 10)

/-- The number that a run of digits denotes. -/
def readDigits (s : List Char) : Nat := s.foldl (fun n c => 10 * n + digitValue c) 0

/-- The digits of `m`, without leading zeros; a single zero for zero. -/
def writeNat (m : Nat) : List Char :=
  if m < 10 then [digitChar m] else writeNat (m / 10) ++ [digitChar m]

/-- The digits of `m`, filled up with zeros to `width`. -/
def writePadded (width m : Nat) : List Char :=
  List.replicate (width - (writeNat m).length) '0' ++ writeNat m

/-- The digits of `n` after its sign. -/
def writeInt (n : Int) : List Char :=
  if n < 0 then '-' :: writeNat n.natAbs else writeNat n.natAbs

end XPathData.Text
