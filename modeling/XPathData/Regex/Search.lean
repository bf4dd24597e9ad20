import XPathData.Regex.Machine
import XPathData.Regex.Parser

/-! # Searching

  A pattern that only looks forward becomes an automaton, every other one a program for the
  machine. Both find the first match from a place on; all matches are found by searching
  again behind the last one.
-/

namespace XPathData

/-! ### Matches -/

/-- A piece of a text that a pattern matches. -/
structure Match where
  /-- Where it starts. -/
  first : Nat
  /-- Where it ends. -/
  last : Nat
  /-- The pieces of the groups from the first one on, with the places where they start and
      end; none for a group that took no part. -/
  groups : List (Option (Nat × Nat))
  deriving DecidableEq, Repr

namespace Match

/-- The piece of a group; the group 0 is the match itself. -/
def group? (m : Match) : Nat → Option (Nat × Nat)
  | 0 => some (m.first, m.last)
  | i + 1 => m.groups[i]?.join

end Match

/-! ### Engines -/

/-- What finds the matches of a pattern. -/
inductive Engine where
  /-- An automaton; its group `whole` is the match, and the groups behind it are those of the
      pattern. -/
  | automaton (a : Automaton) (whole : Nat)
  /-- A program for the machine. -/
  | machine (p : Program)
  deriving Repr

namespace Engine

/-- A pattern that ends with a look ahead: what stands before that is the match. -/
def splitLook? : Pattern → Option (Pattern × Pattern)
  | .sequence l =>
    match l.getLast? with
    | some (.look false false p) => some (.sequence l.dropLast, p)
    | _ => none
  | _ => none

/-- The engine of a pattern under some flags, and the number of groups that it knows. -/
def ofPattern? (r : ReadPattern) (flags : PatternFlags) : Option (Engine × Nat) := do
  -- A look ahead at the end comes behind the match, so it needs not come back.
  let (p, wholeInside) := match splitLook? r.pattern with
    | some (p, q) => (Pattern.sequence [.group 0 p, q], true)
    | none => (r.pattern, false)
  if p.needsMachine r.asked then
    return (.machine (← Program.ofPattern? p flags r.asked r.groups wholeInside), r.groups)
  else
    let a ← (Plain.read? (p.write 0) flags).bind Automaton.ofPlain?
    let whole := if wholeInside then 1 else 0
    return (.automaton a whole, a.groups - whole)

/-- The match that an automaton has found. -/
def ofFound (f : Automaton.Found) (whole groups : Nat) : Match :=
  let (first, last) := if whole = 0 then (f.first, f.last) else (f.group? whole).getD (0, 0)
  ⟨first, last, (List.range groups).map fun i => f.group? (i + 1 + whole)⟩

/-- The match at the end of a run of the machine. -/
def ofState (s : Machine.State) (groups : Nat) : Match :=
  let last := (s.get? 1).getD 0
  -- What does not count may reach behind the end.
  let first := min ((s.get? 0).getD 0) last
  ⟨first, last, (List.range groups).map fun i =>
    match s.get? (2 * i + 2), s.get? (2 * i + 3) with
    | some first, some last => some (first, last)
    | _, _ => none⟩

/-- The first match in a text from a place on. The search has skipped a character before that
    place if the match before it was empty. -/
def find? (e : Engine) (text : Array Char) (start : Nat) (skipped : Bool) :
    Except SearchFault (Option Match) :=
  match e with
  | .automaton a whole =>
    .ok ((a.search text start).map fun f => ofFound f whole (a.groups - whole))
  | .machine p =>
    (Machine.search p ⟨text, start, skipped⟩).map fun s => s.map (ofState · p.groups)

/-- The matches from a place on, one after the other. After an empty match the search goes on
    one character further, and no empty match is taken where the last match ended. A search
    knows of skipped characters where `tells` holds. -/
def matchesWithin (e : Engine) (text : Array Char) (tells : Bool) :
    Nat → Nat → Option Nat → Except SearchFault (List Match)
  | 0, _, _ => .ok []
  | n + 1, start, last => do
    if text.size < start then return []
    match ← e.find? text start (tells && last.any (· < start)) with
    | none => return []
    | some m =>
      if m.first = m.last then
        if some m.last = last then e.matchesWithin text tells n (m.last + 1) last
        else return m :: (← e.matchesWithin text tells n (m.last + 1) (some m.last))
      else return m :: (← e.matchesWithin text tells n m.last (some m.last))

/-- All matches in a text. -/
def allMatches (e : Engine) (text : Array Char) (tells : Bool) : Except SearchFault (List Match) :=
  e.matchesWithin text tells (2 * text.size + 2) 0 none

end Engine

end XPathData
