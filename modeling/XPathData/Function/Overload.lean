/-! # Overloads

  An overload is a function for a range of argument counts, which may have no upper
  bound. Calls try the overloads of a name in order: first the one that needs the most
  arguments, and among those that need as many the one that takes the fewest at most.
-/

namespace XPathData

/-- A function for a range of argument counts. -/
structure Overload (α : Type) where
  /-- The least number of arguments. -/
  least : Nat
  /-- The greatest number of arguments, if there is one. -/
  greatest : Option Nat
  /-- The function. -/
  function : α
  deriving DecidableEq, Repr

namespace Overload

variable {α : Type}

/-! ### Ranges -/

/-- A number of arguments lies in the range. -/
def admits (o : Overload α) (n : Nat) : Bool := o.least ≤ n && o.greatest.all (n ≤ ·)

/-- The range holds one number of arguments only. -/
def isExactly (o : Overload α) (n : Nat) : Bool := o.least == n && o.greatest == some n

/-! ### Order -/

/-- A lower bound comes before a greater one, and no bound comes last. -/
def compareBounds : Option Nat → Option Nat → Ordering
  | some m, some n => compare m n
  | some _, none => .lt
  | none, some _ => .gt
  | none, none => .eq

/-- The order of overloads: by the arguments that they need, downward, and then by those that
    they take at most. -/
def order (o p : Overload α) : Ordering :=
  (compare p.least o.least).then (compareBounds o.greatest p.greatest)

/-- Overloads in order. Those with one range stay as they were. -/
def arrange (l : List (Overload α)) : List (Overload α) :=
  l.mergeSort fun o p => (order o p).isLE

/-! ### Numbers of arguments -/

/-- The numbers of arguments in the range; none if it has no upper bound. -/
def counts (o : Overload α) : List Nat :=
  match o.greatest with
  | some n => List.range' o.least (n + 1 - o.least)
  | none => []

/-- Leaves out numbers that stand behind themselves. -/
def dropRepeats : List Nat → List Nat
  | [] => []
  | [m] => [m]
  | m :: n :: l => if m = n then dropRepeats (n :: l) else m :: dropRepeats (n :: l)

/-- The numbers of arguments that overloads with upper bounds admit, in ascending order. -/
def arities (l : List (Overload α)) : List Nat := dropRepeats ((l.flatMap counts).mergeSort)

end Overload

end XPathData
