import XPathData.Function.Table
import XPathData.Library.Argument

/-! # Functions on the number of items

  These functions ask for the number of items or insist on it, or ask for the truth
  value of a sequence.
-/

namespace XPathData.Library

open Argument

/-- There is no item. -/
def isEmpty (l : List Item) : Call (List Item) := return truthResult l.isEmpty

/-- There is an item. -/
def exists? (l : List Item) : Call (List Item) := return truthResult !l.isEmpty

/-- The number of items, cut off at the greatest integer. -/
def count (l : List Item) : Call (List Item) := return result (.int (.ofNat l.length))

/-- The sequence, which must have one item. -/
def exactlyOne (l : List Item) : Call (List Item) :=
  if l.length = 1 then return l
  else
    Call.fail (.ofCode .notExactlyOne ("exactly-one called with a sequence of " ++
      CallFault.countText l.length ++ " items"))

/-- The sequence, which must not have two items. -/
def zeroOrOne (l : List Item) : Call (List Item) :=
  if l.length ≤ 1 then return l
  else Call.fail (.ofCode .notZeroOrOne "zero-or-one called with more than one item")

/-- The sequence, which must have an item. -/
def oneOrMore (l : List Item) : Call (List Item) :=
  if l.isEmpty then
    Call.fail (.ofCode .notOneOrMore "one-or-more called with an empty sequence")
  else return l

/-- The truth value of a sequence. -/
def truthOf (l : List Item) : Call Bool := liftM ((Stream.ofList l).truth .empty).1

/-- The truth value of a sequence. -/
def boolean (l : List Item) : Call (List Item) := do return truthResult (← truthOf l)

/-- The opposite of the truth value of a sequence. -/
def not (l : List Item) : Call (List Item) := do return truthResult !(← truthOf l)

end XPathData.Library
