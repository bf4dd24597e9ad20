import XPathData.Atomic.Number

/-! # Promotion

  Types of one family promote to one another in the order of their ranks: the
  numeric types along integer, decimal, float and double, the two kinds of
  durations to the general one.
-/

namespace XPathData

namespace AtomicType

/-- The numeric type of a rank. -/
def ofNumericRank : Nat → AtomicType
  | 0 => integer .integer
  | 1 => decimal
  | 2 => float
  | _ => double

/-- The type that values of two types promote to; none for unrelated types. -/
def common? (a b : AtomicType) : Option AtomicType :=
  if a.isNumeric && b.isNumeric then
    match a.rank?, b.rank? with
    | some r, some s => some (ofNumericRank (max r s))
    | _, _ => none
  else if a = b then some a
  else if a.isDuration && b.isDuration && (a = duration || b = duration) then some duration
  else none

end AtomicType

namespace Atomic

/-- The value in the representation of a numeric type. -/
def promoteNumber? (n : Number) : AtomicType → Option Atomic
  | .integer .integer => some n.toAtomic
  | .decimal => n.toDecimal?.map decimal
  | .float => some (float (n.toDouble.convert .binary32))
  | .double => some (double n.toDouble)
  | _ => none

/-- The value as one of a type of higher or equal rank in its family. -/
def promote? (a : Atomic) (target : AtomicType) : Option Atomic :=
  if a.type = target then some a
  else match a.type.rank?, target.rank? with
    | some r, some s =>
      if s < r then none
      else match Number.ofAtomic? a with
        | some n => promoteNumber? n target
        | none =>
          match a, target with
          | yearMonthDuration m, .duration => some (duration m .zero)
          | dayTimeDuration s, .duration => some (duration .zero s)
          | _, _ => none
    | _, _ => none

end Atomic

end XPathData
