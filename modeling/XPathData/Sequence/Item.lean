import XPathData.Error
import XPathData.Tree.Atomize
import XPathData.Tree.NodeTest

/-! # Items

  A sequence holds nodes and atomic values. What is read from a sequence is an
  entry: an item, or an error that stands in its place.
-/

namespace XPathData

/-- A member of a sequence. -/
inductive Item where
  | node (n : NodeId)
  | atomic (a : Atomic)
  deriving DecidableEq, Repr

/-- What stands at one place of a sequence. -/
abbrev Entry := Except Error Item

namespace Item

/-- The canonical text of a value; nodes have a fixed one. -/
def text : Item → String
  | node _ => "<node>"
  | atomic a => a.text

/-- The value of an item that is one. -/
def atomic? : Item → Option Atomic
  | node _ => none
  | atomic a => some a

/-- The atomic values of an item. -/
def atomize (F : Forest) : Item → Except Error (List Atomic)
  | node n => F.atomize n
  | atomic a => .ok [a]

end Item

end XPathData
