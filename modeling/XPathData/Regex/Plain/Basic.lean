import XPathData.Regex.Place

/-! # Plain patterns

  A plain pattern looks only forward: what it takes next depends on nothing that it has
  captured. It is built by functions that keep it simple: pieces in a row that are
  characters make one text, alternatives of single characters make a set, and pieces that
  all alternatives start with are put in front of them.
-/

namespace XPathData

open Unicode

/-- A pattern that looks only forward. -/
inductive Plain where
  /-- Nothing. -/
  | empty
  /-- These characters. -/
  | text (s : List Char)
  /-- One character of a set. -/
  | set (s : CharSet)
  /-- A condition on the place. -/
  | place (a : Place)
  /-- A pattern a number of times; greedy ones try more repetitions first. -/
  | repeated (p : Plain) (min : Nat) (max : Option Nat) (greedy : Bool)
  /-- A pattern whose piece is captured under a number. -/
  | group (index : Nat) (p : Plain)
  /-- One pattern after another. -/
  | row (l : List Plain)
  /-- The first of some patterns that leads to a match. -/
  | choice (l : List Plain)
  deriving Repr

namespace Plain

/-! ### Comparing -/

mutual

/-- The patterns are the same. -/
def same : Plain → Plain → Bool
  | empty, empty => true
  | text s, text t => s == t
  | set s, set t => s == t
  | place a, place b => a == b
  | repeated p min max greedy, repeated q min' max' greedy' =>
    min == min' && max == max' && greedy == greedy' && p.same q
  | group i p, group j q => i == j && p.same q
  | row l, row r => sameAll l r
  | choice l, choice r => sameAll l r
  | _, _ => false

/-- The patterns of two lists are the same, one by one. -/
def sameAll : List Plain → List Plain → Bool
  | [], [] => true
  | p :: l, q :: r => p.same q && sameAll l r
  | _, _ => false

end

/-- The patterns that both lists start with. -/
def agreement : List Plain → List Plain → List Plain
  | p :: l, q :: r => if p.same q then p :: agreement l r else []
  | _, _ => []

/-! ### Measures -/

mutual

/-- The number of patterns that a pattern is made of. -/
def size : Plain → Nat
  | repeated p .. => p.size + 1
  | group _ p => p.size + 1
  | row l => sizes l + 1
  | choice l => sizes l + 1
  | _ => 1

/-- The number of patterns that some patterns are made of. -/
def sizes : List Plain → Nat
  | [] => 0
  | p :: l => p.size + sizes l

end

mutual

/-- The pattern can match without taking a character. -/
def canBeEmpty : Plain → Bool
  | empty | place _ => true
  | text s => s.isEmpty
  | set _ => false
  | repeated p min .. => min == 0 || p.canBeEmpty
  | group _ p => p.canBeEmpty
  | row l => allCanBeEmpty l
  | choice l => anyCanBeEmpty l

/-- All patterns can match without taking a character. -/
def allCanBeEmpty : List Plain → Bool
  | [] => true
  | p :: l => p.canBeEmpty && allCanBeEmpty l

/-- Some pattern can match without taking a character. -/
def anyCanBeEmpty : List Plain → Bool
  | [] => false
  | p :: l => p.canBeEmpty || anyCanBeEmpty l

end

mutual

/-- The pattern never takes a character. -/
def takesNothing : Plain → Bool
  | empty | place _ => true
  | text s => s.isEmpty
  | set _ => false
  | repeated p .. => p.takesNothing
  | group _ p => p.takesNothing
  | row l => takeNothing l
  | choice l => takeNothing l

/-- No pattern ever takes a character. -/
def takeNothing : List Plain → Bool
  | [] => true
  | p :: l => p.takesNothing && takeNothing l

end

mutual

/-- The greatest number of a group. -/
def lastGroup : Plain → Nat
  | repeated p .. => p.lastGroup
  | group i p => max i p.lastGroup
  | row l => lastGroupOf l
  | choice l => lastGroupOf l
  | _ => 0

/-- The greatest number of a group in some patterns. -/
def lastGroupOf : List Plain → Nat
  | [] => 0
  | p :: l => max p.lastGroup (lastGroupOf l)

end

/-! ### Building -/

/-- One character of a set. -/
def ofSet (s : CharSet) : Plain :=
  match s.only? with
  | some c => text [c]
  | none => set s

/-- Puts a pattern in front of a row; texts that meet become one. -/
def toRow : Plain → List Plain → List Plain
  | empty, l => l
  | text s, text t :: l => text (s ++ t) :: l
  | p, l => p :: l

/-- The patterns that stand in a row. -/
def inRow : Plain → List Plain
  | row l => l
  | p => [p]

/-- Patterns one after another. -/
def sequence (l : List Plain) : Plain :=
  match (l.flatMap inRow).foldr toRow [] with
  | [] => empty
  | [p] => p
  | l => row l

/-- The alternatives of a pattern. -/
def alternatives : Plain → List Plain
  | choice l => l
  | p => [p]

/-- The set of alternatives that are all single characters. -/
def characters? : List Plain → Option CharSet
  | [] => some .empty
  | text [c] :: l => (characters? l).map (CharSet.single c).union
  | _ => none

/-- The set of alternatives that are all sets. -/
def sets? : List Plain → Option CharSet
  | [] => some .empty
  | set s :: l => (sets? l).map s.union
  | _ => none

/-- What all alternatives start with, if all of them are rows, and how they go on. -/
def sharedStart? : List Plain → Option (List Plain × List (List Plain))
  | [row r] => some (r, [r])
  | row r :: l => (sharedStart? l).map fun (start, rows) => (agreement r start, r :: rows)
  | _ => none

/-- The first of some patterns that leads to a match, what they share put in front. The
    patterns have at most `n` parts together. -/
def choiceWithin : Nat → List Plain → Plain
  | 0, l => choice l
  | n + 1, l =>
    match l.flatMap alternatives with
    | [] => set .empty
    | [p] => p
    | l =>
      match (characters? l).or (sets? l) with
      | some s => ofSet s
      | none =>
        match sharedStart? l with
        | none | some ([], _) => choice l
        | some (start, rows) =>
          sequence (start ++ [choiceWithin n (rows.map fun r => sequence (r.drop start.length))])

/-- The first of some patterns that leads to a match. -/
def oneOf (l : List Plain) : Plain := choiceWithin (sizes l + 1) l

/-- A pattern a number of times. One that never takes a character is tried once at most. -/
def times (p : Plain) (min : Nat) (max : Option Nat) (greedy : Bool) : Plain :=
  let (min, max) :=
    if p.takesNothing then (Nat.min min 1, some (Nat.min (max.getD 1) 1)) else (min, max)
  if max = some 0 then empty
  else if min = 1 && max = some 1 then p
  else repeated p min max greedy

end Plain

end XPathData
