import XPathData.Library.Extremum

/-! # Sums and averages

  Numbers add up, and durations of one kind do. Of other values and of mixed ones
  there is no sum.
-/

namespace XPathData.Library

open Argument

/-- A value that can be part of a sum. -/
def isSummable (a : Atomic) : Bool :=
  a.isNumeric || a.type = .yearMonthDuration || a.type = .dayTimeDuration

/-- Two values have no sum. -/
def noSum (a b : Atomic) : Error :=
  .ofCode .invalidArgument ("cannot sum " ++ a.type.text ++ " and " ++ b.type.text)

/-- The sum of two values; types that do not go together are an error of their own. -/
def addTo (ctx : ValueContext) (a b : Atomic) : Outcome Atomic :=
  (a.arithmetic .add b ctx).mapError fun e =>
    if e.standardCode = .typeError then noSum a b else e

/-- The sum of some values; none for an empty list. -/
def total (ctx : ValueContext) (l : List Atomic) : Outcome (Option Atomic) :=
  match l with
  | [] => return none
  | a :: rest =>
    -- A value that cannot be summed counts first, also behind two that do not go together.
    match l.find? (!isSummable ·) with
    | some b =>
      throw (.error (.ofCode .invalidArgument ("cannot sum values of type " ++ b.type.text)))
    | none => do return some (← rest.foldlM (addTo ctx) a)

/-- The sum of a sequence; an empty one has the given sum, or else zero. -/
def sum (l : List Item) (zero : Option (List Item)) : Call (List Item) := do
  match ← liftM (total (← Call.values) (← aggregated l)) with
  | some a => return result a
  | none => return zero.getD (result (.int (.ofNat 0)))

/-- The average of a sequence; an empty one has none. -/
def average (l : List Item) : Call (List Item) := do
  let ctx ← Call.values
  let values ← aggregated l
  match ← liftM (total ctx values) with
  | some a =>
    return result (← liftM (a.arithmetic .div (.int (.ofNat values.length)) ctx))
  | none => return []

end XPathData.Library
