import XPathData.Text.Hex
import XPathData.Text.Space

/-! # Intervals of characters

  A list of intervals of code points says which characters are meant. Tables write an
  interval as its two ends in hexadecimal digits with a hyphen between them, or as one
  code point that stands alone.
-/

namespace XPathData.Unicode

/-- Intervals of code points, both ends included. -/
abbrev Intervals := List (Nat × Nat)

namespace Intervals

/-- The character lies in one of the intervals. -/
def has (s : Intervals) (c : Char) : Bool :=
  s.any fun (first, last) => first ≤ c.toNat && c.toNat ≤ last

@[simp] theorem has_nil (c : Char) : has [] c = false := rfl

@[simp] theorem has_cons (i : Nat × Nat) (s : Intervals) (c : Char) :
    has (i :: s) c = ((i.1 ≤ c.toNat && c.toNat ≤ i.2) || has s c) := rfl

@[simp] theorem has_append (s t : Intervals) (c : Char) :
    has (s ++ t) c = (has s c || has t c) := List.any_append

/-! ### Tables -/

/-- The interval that a piece of a table stands for. -/
def readOne (s : List Char) : Nat × Nat :=
  match Text.splitFirst '-' s with
  | some (first, last) => (Text.Hex.number first, Text.Hex.number last)
  | none => (Text.Hex.number s, Text.Hex.number s)

/-- The intervals of a table, which has white space between them. -/
def ofText (s : String) : Intervals := (Text.words s.toList).map readOne

/-! ### Order -/

/-- Makes one of intervals that overlap or touch, in a list that is sorted by first ends. -/
def joined : Intervals → Intervals
  | [] => []
  | [i] => [i]
  | i :: j :: s =>
    if j.1 ≤ i.2 + 1 then joined ((i.1, max i.2 j.2) :: s) else i :: joined (j :: s)
termination_by s => s.length

/-- The same characters in sorted intervals with gaps between them. -/
def sorted (s : Intervals) : Intervals := joined (s.mergeSort fun i j => i.1 ≤ j.1)

/-- The gaps between sorted intervals, from a code point on. -/
def gaps (start : Nat) : Intervals → Intervals
  | [] => if start ≤ 0x10FFFF then [(start, 0x10FFFF)] else []
  | i :: s => if start < i.1 then (start, i.1 - 1) :: gaps (i.2 + 1) s else gaps (i.2 + 1) s

end Intervals

end XPathData.Unicode
