import XPathData.Library.Argument

/-! # Least and greatest values

  Values of one ordered family have a least and a greatest one. Numbers of several
  types are compared by value and the result takes their common type; a NaN among
  them is the result.
-/

namespace XPathData.Library

open Argument

/-- The values of a sequence, untyped ones as doubles. -/
def aggregated (l : List Item) : Call (List Atomic) := do
  liftM ((← atoms l).mapM Atomic.typedOperand)

/-- Two values are not of one ordered family. -/
def unordered (a b : Atomic) : Error :=
  .ofCode .invalidArgument
    ("values of type " ++ a.type.text ++ " and " ++ b.type.text ++ " cannot be compared")

/-- What is known of the values seen so far. -/
structure Extremum where
  /-- The value that comes first in the order that is asked for. -/
  best : Atomic
  /-- The common type of the numbers. -/
  numeric : Option AtomicType
  /-- The first value that is no number. -/
  nan : Option Atomic

namespace Extremum

/-- The extremum of one value, which must be of an ordered type. -/
def ofValue (a : Atomic) (ctx : ValueContext) : Outcome Extremum := do
  discard ((Atomic.orderOf a a ctx).mapError fun _ => unordered a a)
  return ⟨a, if a.isNumeric then some a.type else none, if a.isNaN then some a else none⟩

/-- The common type of the numbers and one more value. -/
def joinType (e : Extremum) (a : Atomic) : Except Error (Option AtomicType) :=
  if a.isNumeric then
    match e.numeric with
    | some t => .ok (AtomicType.common? t a.type)
    | none => .error (unordered e.best a)
  else .ok e.numeric

/-- The extremum of the values so far and one more. -/
def join (wanted : Ordering) (ctx : ValueContext) (e : Extremum) (a : Atomic) :
    Outcome Extremum := do
  let numeric ← e.joinType a
  let o ← (Atomic.orderOf a e.best ctx).mapError fun _ => unordered a e.best
  -- Of equal values the first one stays.
  return ⟨if o = some wanted then a else e.best, numeric,
    e.nan.or (if a.isNaN then some a else none)⟩

/-- The value of an extremum in the common type. -/
def value (e : Extremum) : Atomic :=
  let best := e.nan.getD e.best
  match e.numeric with
  | some t => (best.promote? t).getD best
  | none => best

end Extremum

/-- The value of a list that comes first in an order; none for an empty list. -/
def extremum (wanted : Ordering) (ctx : ValueContext) : List Atomic → Outcome (Option Atomic)
  | [] => return none
  | a :: l => do
    return some (← l.foldlM (Extremum.join wanted ctx) (← Extremum.ofValue a ctx)).value

/-- The extremum of a sequence; none for an empty one. -/
def extremumOf (wanted : Ordering) (l : List Item) (uri : Option (List Item)) :
    Call (List Item) := do
  collation uri
  return ((← liftM (extremum wanted (← Call.values) (← aggregated l))).map result).getD []

/-- The least value of a sequence. -/
def least (l : List Item) (uri : Option (List Item)) : Call (List Item) := extremumOf .lt l uri

/-- The greatest value of a sequence. -/
def greatest (l : List Item) (uri : Option (List Item)) : Call (List Item) := extremumOf .gt l uri

end XPathData.Library
