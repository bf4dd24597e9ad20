import XPathData.Sequence.Item

/-! # Sequence types

  A sequence type tells how many items a sequence may have and what each of them
  must be, or that it is empty.
-/

namespace XPathData

/-! ### Occurrence -/

/-- How many items a sequence may have. -/
inductive Occurrence where
  | one
  | zeroOrOne
  | zeroOrMore
  | oneOrMore
  deriving DecidableEq, Repr

namespace Occurrence

/-- No item is enough. -/
def allowsEmpty : Occurrence → Bool
  | zeroOrOne | zeroOrMore => true
  | one | oneOrMore => false

/-- More than one item may be there. -/
def allowsMany : Occurrence → Bool
  | zeroOrMore | oneOrMore => true
  | one | zeroOrOne => false

/-- The mark behind the item type. -/
def indicator : Occurrence → String
  | one => ""
  | zeroOrOne => "?"
  | zeroOrMore => "*"
  | oneOrMore => "+"

/-- The name of an occurrence, as messages write it. -/
def name : Occurrence → String
  | one => "One"
  | zeroOrOne => "ZeroOrOne"
  | zeroOrMore => "ZeroOrMore"
  | oneOrMore => "OneOrMore"

/-- A number of items is allowed. -/
def admits (occ : Occurrence) (count : Nat) : Bool :=
  match occ with
  | one => count == 1
  | zeroOrOne => count ≤ 1
  | zeroOrMore => true
  | oneOrMore => 1 ≤ count

end Occurrence

/-! ### Item types -/

/-- What an item must be. -/
inductive ItemType where
  /-- Any item. -/
  | item
  /-- Any node. -/
  | node
  /-- A node that passes a test. -/
  | nodeTest (test : NodeTest)
  /-- A value of a type or of one derived from it. -/
  | atomic (type : AtomicType)
  deriving DecidableEq, Repr

namespace ItemType

/-- The text of an item type. -/
def text : ItemType → String
  | item => "item()"
  | node => "node()"
  | nodeTest t => t.toText
  | atomic t => t.text

/-- An item is what the type asks for. -/
def admits (F : Forest) : ItemType → Item → Bool
  | item, _ => true
  | node, .node _ => true
  | nodeTest t, .node n => F.passes n t
  | atomic t, .atomic a => a.type.derivesFrom t
  | _, _ => false

end ItemType

/-! ### Sequence types -/

/-- The type of a sequence. -/
inductive SequenceType where
  /-- No items. -/
  | empty
  /-- Items of a type, as many as the occurrence allows. -/
  | items (type : ItemType) (occ : Occurrence)
  deriving DecidableEq, Repr

namespace SequenceType

/-- The type of atomic values with a type name. -/
def ofTypeName (name : ExpandedName) (occ : Occurrence) : Except Error SequenceType :=
  match AtomicType.ofName? name with
  | some t => .ok (items (.atomic t) occ)
  | none => .error (.ofCode .unknownType ("unknown atomic type " ++ name.text))

/-- The occurrence of a type that has one. -/
def occurrence? : SequenceType → Option Occurrence
  | empty => none
  | items _ occ => some occ

/-- The text of a sequence type. -/
def text : SequenceType → String
  | empty => "empty-sequence()"
  | items t occ => t.text ++ occ.indicator

end SequenceType

end XPathData
