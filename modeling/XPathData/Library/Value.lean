import XPathData.Atomic.Key
import XPathData.Library.Position

/-! # Functions on values

  These functions atomize their argument. Values are the same if they have the same
  equality key.
-/

namespace XPathData.Library

open Argument

/-- The atomic values of a sequence. -/
def data (l : List Item) : Call (List Item) := do return (← atoms l).map .atomic

/-- The values with keys that are not seen yet, each value the first with its key. -/
def distinctBeside (ctx : ValueContext) (seen : List EqualityKey) :
    List Atomic → Outcome (List Atomic)
  | [] => return []
  | a :: l => do
    let k ← EqualityKey.of a ctx
    if seen.contains k then distinctBeside ctx seen l
    else return a :: (← distinctBeside ctx (k :: seen) l)

/-- The different values of a sequence, in the order in which they first appear. -/
def distinctValues (l : List Item) : Call (List Item) := do
  return (← liftM (distinctBeside (← Call.values) [] (← atoms l))).map .atomic

/-- A value is equal to the one that is looked for; values that do not compare are not. -/
def isFound (ctx : ValueContext) (search a : Atomic) : Outcome Bool :=
  (Atomic.compareBy .eq a search ctx).orElse false

/-- The positions of the values that are equal to a given one. -/
def indexOf (l search : List Item) : Call (List Item) := do
  match ← value? search with
  | none => Call.fail (.cardinality .typeError "index-of requires a search value")
  | some b =>
    let ctx ← Call.values
    let found ← liftM ((← atoms l).mapM (isFound ctx b))
    return (positionsFrom 1 id found).map fun p => .atomic (.int (.ofNat p))

end XPathData.Library
