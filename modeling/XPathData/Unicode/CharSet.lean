import XPathData.Unicode.CaseFolding
import XPathData.Unicode.Intervals

/-! # Character sets

  A set of characters is kept as sorted intervals with gaps between them, so that each
  set has one form. Sets are combined by the operations on sets and by adding the case
  variants of all members.
-/

namespace XPathData.Unicode

/-- A set of characters. -/
structure CharSet where
  /-- Its intervals, sorted and apart. -/
  intervals : Intervals
  deriving DecidableEq, Repr

namespace CharSet

/-- The character is a member. -/
def has (s : CharSet) (c : Char) : Bool := s.intervals.has c

/-- The set of the characters in some intervals. -/
def ofIntervals (s : Intervals) : CharSet := ⟨s.sorted⟩

/-- The set that a table writes. -/
def ofText (s : String) : CharSet := ofIntervals (.ofText s)

/-- The set without members. -/
def empty : CharSet := ⟨[]⟩

/-- Every character. -/
def all : CharSet := ⟨[(0, 0x10FFFF)]⟩

/-- The set of one character. -/
def single (c : Char) : CharSet := ⟨[(c.toNat, c.toNat)]⟩

/-- The characters from one to another. -/
def range (first last : Char) : CharSet := ⟨[(first.toNat, last.toNat)]⟩

/-- The only member, if there is just one. -/
def only? (s : CharSet) : Option Char :=
  match s.intervals with
  | [(first, last)] => if first = last then some (Char.ofNat first) else none
  | _ => none

/-! ### Operations -/

/-- The members of one set or the other. -/
def union (a b : CharSet) : CharSet := ofIntervals (a.intervals ++ b.intervals)

/-- The characters that are no members. -/
def compl (a : CharSet) : CharSet := ⟨a.intervals.gaps 0⟩

/-- The members of both sets. -/
def inter (a b : CharSet) : CharSet := (a.compl.union b.compl).compl

/-- The members of the first set that the second one lacks. -/
def diff (a b : CharSet) : CharSet := (a.compl.union b).compl

/-- The members of just one of the two sets. -/
def symmDiff (a b : CharSet) : CharSet := (a.diff b).union (b.diff a)

/-- The set, or all that it lacks. -/
def negated (negative : Bool) (s : CharSet) : CharSet := if negative then s.compl else s

/-- The members of a set and their case variants. -/
def folded (s : CharSet) : CharSet :=
  let touched := foldPairs.filter fun p => s.has (Char.ofNat p.1) || s.has (Char.ofNat p.2)
  let heads := ofIntervals (touched.map fun p => (p.2, p.2))
  let variants := foldPairs.filter fun p => heads.has (Char.ofNat p.2)
  (s.union heads).union (ofIntervals (variants.map fun p => (p.1, p.1)))

/-- The set with the case variants of its members, where case is ignored. -/
def ignoring (ignoreCase : Bool) (s : CharSet) : CharSet := if ignoreCase then folded s else s

@[simp] theorem has_empty (c : Char) : empty.has c = false := rfl

@[simp] theorem has_single (c d : Char) : (single c).has d = (c == d) := by
  simp only [single, has, Intervals.has, List.any_cons, List.any_nil, Bool.or_false]
  by_cases h : c = d
  · subst h; simp
  · have : c.toNat ≠ d.toNat := fun e => h (Char.ext (UInt32.toNat_inj.1 e))
    simp only [beq_eq_false_iff_ne.2 h, Bool.and_eq_false_iff, decide_eq_false_iff_not]
    omega

end CharSet

end XPathData.Unicode
