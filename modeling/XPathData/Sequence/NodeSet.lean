import XPathData.Sequence.Stream
import XPathData.Tree.Order

/-! # Set operations on nodes

  Union, intersection and difference of two sequences of nodes. Ordered results come
  in document order and are computed at once; unordered ones come in the order of
  the operands and are found when they are read. Nodes are never repeated.
-/

namespace XPathData

namespace Stream

/-- The nodes of a sequence; a value among them fails. -/
def nodes (operation : String) (t : Stream) : Fetch (List NodeId) :=
  t.cursor.restart.nodes operation

/-- The stream of the given nodes. -/
def ofNodes (l : List NodeId) : Stream := ofList (l.map .node)

/-- The nodes that a set operation makes of two lists, in document order. -/
def combine (op : SetOp) (F : Forest) (a b : List NodeId) : Forest × List NodeId :=
  match op with
  | .union => F.inDocumentOrder (a ++ b)
  | .intersect | .except =>
    let (G, l) := F.inDocumentOrder a
    (G, l.filter (op.wants b))

/-- A set operation with its result in document order. -/
def ordered (op : SetOp) (F : Forest) (a b : Stream) : Fetch (Forest × Stream) := do
  let l ← a.nodes op.symbol
  let r ← b.nodes op.symbol
  let (G, result) := combine op F l r
  return (G, ofNodes result)

/-- A set operation with its result in the order of the operands. -/
def unordered (op : SetOp) (a b : Stream) : Stream :=
  match op with
  | .union => ofCursor (.select op (a.cursor.concat b.cursor) (.ofList []) (Cursor.startPhase op))
  | .intersect | .except =>
    ofCursor (.select op a.cursor.restart b.cursor.restart (Cursor.startPhase op))

/-- The different nodes of a sequence in document order. -/
def documentOrder (F : Forest) (t : Stream) : Fetch (Forest × Stream) := do
  let (G, result) := F.inDocumentOrder (← t.nodes "document ordering")
  return (G, ofNodes result)

end Stream

end XPathData
