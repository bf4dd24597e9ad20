import XPathData.Library.Argument

/-! # Functions on positions

  Items are numbered from one. Positions outside of the sequence are brought to its
  nearer end where something is inserted, and name nothing elsewhere.
-/

namespace XPathData.Library

open Argument

/-! ### Lists -/

/-- A number of items that a list can have. -/
abbrev Size := Bounded 0 0xFFFFFFFFFFFFFFFF

/-- The greatest number of items. -/
def Size.greatest : Size := ⟨0xFFFFFFFFFFFFFFFF, by decide, by decide⟩

/-- The number of items in front of an inserted piece: those before the position, as far as
    there are any. -/
def insertionPoint (length : Nat) (p : Int) : Nat :=
  min ((Bounded.ofInt? (max p 1 - 1)).getD Size.greatest).val.toNat length

/-- Inserts items before a position. -/
def insertAt {α : Type} (target : List α) (p : Int) (items : List α) : List α :=
  target.take (insertionPoint target.length p) ++ items ++
    target.drop (insertionPoint target.length p)

/-- Leaves out the item at a position. -/
def removeAt {α : Type} (target : List α) (p : Int) : List α :=
  match (Bounded.ofInt? p : Option Size) with
  | some n =>
    if 1 ≤ n.val ∧ n.val ≤ target.length then target.eraseIdx (n.val.toNat - 1) else target
  | none => target

/-- The positions from `i` on whose items satisfy a condition. -/
def positionsFrom {α : Type} (i : Nat) (f : α → Bool) : List α → List Nat
  | [] => []
  | x :: l => if f x then i :: positionsFrom (i + 1) f l else positionsFrom (i + 1) f l

/-- The items whose positions from `i` on satisfy a condition. -/
def itemsAt {α : Type} (i : Nat) (f : Nat → Bool) : List α → List α
  | [] => []
  | x :: l => if f i then x :: itemsAt (i + 1) f l else itemsAt (i + 1) f l

/-! ### Functions -/

/-- The items in reverse order. -/
def reverse (l : List Item) : Call (List Item) := return l.reverse

/-- A position lies at a start or behind it, and before an end if there is one. -/
def isWithin (start : Double) (finish : Option Double) (p : Nat) : Bool :=
  let p : Double := .ofInt .binary64 p
  start.le p && finish.all p.lt

/-- The items from a position on, all of them or a number of them. Both numbers are rounded. -/
def subsequence (l start : List Item) (length : Option (List Item)) : Call (List Item) := do
  let start := (← number start).roundHalfUp
  let finish ← length.mapM fun n => do return start.add (← number n).roundHalfUp
  return itemsAt 1 (isWithin start finish) l

/-- A sequence with items inserted before a position. -/
def insertBefore (target position items : List Item) : Call (List Item) := do
  return insertAt target (← integer position) items

/-- A sequence without the item at a position. -/
def remove (target position : List Item) : Call (List Item) := do
  return removeAt target (← integer position)

end XPathData.Library
