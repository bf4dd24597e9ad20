import XPathData.Regex.Plain.Basic
import XPathData.Unicode.Utf8

/-! # The room of a pattern

  Patterns that name many repetitions would become automata without bounds. So the room of an
  automaton over bytes is counted beforehand, once for one that reads forward and notes
  groups and once for one that reads backward, and a pattern that takes too much of it is
  refused.
-/

namespace XPathData

open Unicode

namespace Plain

/-! ### What takes room -/

/-- The room of a state. -/
def stateRoom : Nat := 32

/-- The room of one of several ranges of bytes that a state takes. -/
def rangeRoom : Nat := 8

/-- The room of one of several states that a state leads to. -/
def branchRoom : Nat := 4

/-- The room of a state that leads to two others. -/
def forkRoom : Nat := stateRoom + 2 * branchRoom

/-! ### Trees of sequences -/

/-- What sequences start with. -/
def heads {α : Type} [BEq α] (l : List (List α)) : List α := (l.filterMap List.head?).eraseDups

/-- What follows a start. -/
def following {α : Type} [BEq α] (x : α) : List (List α) → List (List α)
  | [] => []
  | [] :: l => following x l
  | (y :: s) :: l => if x == y then s :: following x l else following x l

/-- The nodes of the tree that sequences of at most `n` entries make, without its leaves. A
    node is what follows it. -/
def nodes {α : Type} [BEq α] : Nat → List (List α) → List (List (List α))
  | 0, _ => []
  | n + 1, l =>
    match heads l with
    | [] => []
    | xs => l :: xs.flatMap fun x => nodes n (following x l)

/-- Adds up what a function gives. -/
def total {α : Type} (f : α → Nat) (l : List α) : Nat := l.foldl (fun n a => n + f a) 0

/-! ### Counting -/

/-- The room of a set. Forward its characters share how they end, backward how they start. -/
def setRoom (backward : Bool) (s : CharSet) : Nat :=
  if s.intervals.all (·.2 < 0x80) then 2 * stateRoom + rangeRoom * s.intervals.length
  else
    let sequences := Utf8.ofIntervals s.intervals
    let tree := nodes 4 sequences
    if backward then
      2 * stateRoom + branchRoom * sequences.length +
        stateRoom * total (fun node => (heads node).length) tree
    else
      stateRoom + total (fun node => stateRoom + rangeRoom * (heads node).length) tree.eraseDups

/-- The texts that patterns are, if all of them are texts. -/
def texts? : List Plain → Option (List (List Char))
  | [] => some []
  | text s :: l => (texts? l).map (s :: ·)
  | _ => none

/-- The room of alternatives that are texts. They share how they start, and backward how they
    end. -/
def textsRoom (backward : Bool) (l : List (List Char)) : Nat :=
  let sequences := l.map Utf8.bytes
  let sequences := if backward then sequences.map List.reverse else sequences
  let nodeRoom (node : List (List Nat)) : Nat :=
    let ways := (heads node).length
    2 * stateRoom + branchRoom + (if ways < 2 then 0 else rangeRoom * ways)
  stateRoom + total nodeRoom (nodes (total List.length sequences) sequences)

/-- The room of a repetition of what takes some room itself. -/
def repeatedRoom (min : Nat) (max : Option Nat) (canBeEmpty : Bool) (room : Nat) : Nat :=
  match max with
  | some max =>
    if min = 0 && max = 1 then room + forkRoom + stateRoom
    else
      (if min = 0 then stateRoom else min * room) +
        if min = max then 0 else stateRoom + (max - min) * (forkRoom + room)
  | none =>
    if 0 < min then min * room + forkRoom
    else if canBeEmpty then room + 2 * forkRoom + stateRoom
    else room + forkRoom

mutual

/-- The room of a pattern. -/
def room (backward : Bool) : Plain → Nat
  | empty | place _ => stateRoom
  | text s => stateRoom * (Utf8.bytes s).length
  | set s => setRoom backward s
  | repeated p min max _ => repeatedRoom min max p.canBeEmpty (p.room backward)
  | group _ p => p.room backward + if backward then 0 else 2 * stateRoom
  | row l => roomInRow backward l
  | choice l =>
    match texts? l with
    | some texts => textsRoom backward texts
    | none => 2 * stateRoom + branchRoom * l.length + roomInRow backward l

/-- The room of patterns one after another. -/
def roomInRow (backward : Bool) : List Plain → Nat
  | [] => 0
  | p :: l => p.room backward + roomInRow backward l

end

/-- The room that all patterns take: that of skipping bytes before a match and of its end. -/
def frameRoom : Nat := forkRoom + 2 * stateRoom + rangeRoom + stateRoom

/-- The room that an automaton may take. -/
def maxRoom : Nat := 0xA00000

/-- The pattern takes no more room than it may. -/
def fits (p : Plain) : Bool :=
  frameRoom + p.room true ≤ maxRoom && frameRoom + (group 0 p).room false ≤ maxRoom

end Plain

end XPathData
