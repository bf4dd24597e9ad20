import XPathData.Atomic.Value
import XPathData.Binary.Decimal
import XPathData.Decimal.Arithmetic

/-! # Numbers

  Numeric values fall into four representations: integers of 64 bits, decimals,
  and the two floating-point formats. Unsigned integers beyond the signed range
  count as decimals. Two numbers meet in the higher of their representations.
-/

namespace XPathData

/-- A number in one of the four representations, in ascending order. -/
inductive Number where
  | int (n : Signed64)
  | dec (d : Decimal)
  | single (x : Single)
  | double (x : Double)
  deriving DecidableEq, Repr

namespace Number

/-- The number that a numeric value holds. -/
def ofAtomic? : Atomic → Option Number
  | .integer k n =>
    match (Bounded.ofInt? n.val : Option Signed64) with
    | some i => some (int i)
    | none => some (dec (Decimal.ofWord n k.bounds))
  | .decimal d => some (dec d)
  | .float x => some (single x)
  | .double x => some (double x)
  | _ => none

/-- The number as a value of the type of its representation. -/
def toAtomic : Number → Atomic
  | int n => .int n
  | dec d => .decimal d
  | single x => .float x
  | double x => .double x

/-- The number in the format of 64 bits. -/
def toDouble : Number → Double
  | int n => .ofInt .binary64 n.val
  | dec d => d.toDouble
  | single x => x.convert .binary64
  | double x => x

/-- The number in the format of 32 bits; integers are rounded once, decimals by way
    of 64 bits. -/
def toSingle : Number → Single
  | int n => .ofInt .binary32 n.val
  | dec d => d.toSingle
  | single x => x
  | double x => x.convert .binary32

/-- The number as a decimal, if it is finite and not too large. -/
def toDecimal? : Number → Option Decimal
  | int n => some (Decimal.ofSigned64 n)
  | dec d => some d
  | single x => x.toDecimal?
  | double x => x.toDecimal?

/-- No number. -/
def isNaN : Number → Bool
  | single x => x.isNaN
  | double x => x.isNaN
  | _ => false

/-! ### Two numbers -/

/-- Two numbers in their common representation. -/
inductive Pair where
  | int (a b : Signed64)
  | dec (a b : Decimal)
  | single (a b : Single)
  | double (a b : Double)

/-- Brings two numbers to the higher of their representations. -/
def unify : Number → Number → Pair
  | double x, y => .double x y.toDouble
  | y, double x => .double y.toDouble x
  | single x, y => .single x y.toSingle
  | y, single x => .single y.toSingle x
  | int m, int n => .int m n
  | dec a, dec b => .dec a b
  | dec a, int n => .dec a (Decimal.ofSigned64 n)
  | int m, dec b => .dec (Decimal.ofSigned64 m) b

/-- Compares two numbers in their common representation; none if one is NaN. -/
def compare? (a b : Number) : Option Ordering :=
  match unify a b with
  | .int m n => some (compare m.val n.val)
  | .dec x y => some (x.compare y)
  | .single x y => x.compare? y
  | .double x y => x.compare? y

end Number

end XPathData
