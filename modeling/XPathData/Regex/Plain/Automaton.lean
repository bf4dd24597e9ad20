import Std.Data.HashSet
import XPathData.Regex.Plain.Room

/-! # Automata

  The code of a plain pattern is a list of steps. A run of it divides where there are
  several ways to go on, and the ways are tried in the order of preference. What comes to a
  step and a place that were tried before is given up: it would fail as it did then. So
  repetitions end although they may take no characters.
-/

namespace XPathData

open Unicode

namespace Automaton

/-! ### Code -/

/-- A step of an automaton; after most steps the next one follows. -/
inductive Step where
  /-- Takes a character of a set. -/
  | take (s : CharSet)
  /-- Goes on where a condition holds. -/
  | check (a : Place)
  /-- Notes the place. -/
  | mark (slot : Nat)
  /-- Goes on at the first step, or else at the second one. -/
  | fork (first second : Nat)
  /-- Goes on elsewhere. -/
  | jump (target : Nat)
  /-- The match is complete. -/
  | finish
  deriving Repr

namespace Step

/-- Goes on at the first step; which of the two comes first turns round where `greedy` does
    not hold. -/
def prefer (greedy : Bool) (first second : Nat) : Step :=
  if greedy then fork first second else fork second first

/-- Some code again and again, `n` times; the code depends on the step it starts at. -/
def copies (code : Nat → List Step) : Nat → Nat → List Step
  | 0, _ => []
  | n + 1, start =>
    let first := code start
    first ++ copies code n (start + first.length)

/-- Some code up to `n` times; before each time it may leave for the end of them all. The code
    has the same length wherever it starts. -/
def copiesUpTo (code : Nat → List Step) (greedy : Bool) : Nat → Nat → List Step
  | 0, _ => []
  | n + 1, start =>
    let first := code (start + 1)
    let last := start + (n + 1) * (first.length + 1)
    prefer greedy (start + 1) last :: first ++
      copiesUpTo code greedy n (start + 1 + first.length)

/-- Some code any number of times. Code that can take nothing is left behind its end, so that
    it is preferred to leaving even where it has taken nothing. -/
def loop (code : Nat → List Step) (greedy canBeEmpty : Bool) (start : Nat) : List Step :=
  let body := code (start + 1)
  let last := start + body.length + 2
  let back := if canBeEmpty then prefer greedy (start + 1) last else jump start
  prefer greedy (start + 1) last :: body ++ [back]

/-- Some code once and then any number of times. -/
def loopOnce (code : Nat → List Step) (greedy : Bool) (start : Nat) : List Step :=
  let body := code start
  body ++ [prefer greedy start (start + body.length + 1)]

end Step

end Automaton

namespace Plain

mutual

/-- The code of a pattern from a step on. -/
def code : Plain → Nat → List Automaton.Step
  | empty, _ => []
  | text s, _ => s.map fun c => .take (.single c)
  | set s, _ => [.take s]
  | place a, _ => [.check a]
  | repeated p min max greedy, start =>
    match max with
    | some max =>
      let first := Automaton.Step.copies p.code min start
      first ++ Automaton.Step.copiesUpTo p.code greedy (max - min) (start + first.length)
    | none =>
      if min = 0 then Automaton.Step.loop p.code greedy p.canBeEmpty start
      else
        let first := Automaton.Step.copies p.code (min - 1) start
        first ++ Automaton.Step.loopOnce p.code greedy (start + first.length)
  | group i p, start => .mark (2 * i) :: p.code (start + 1) ++ [.mark (2 * i + 1)]
  | row l, start => rowCode l start
  | choice l, start => choiceCode l start

/-- The code of patterns one after another. -/
def rowCode : List Plain → Nat → List Automaton.Step
  | [], _ => []
  | p :: l, start =>
    let first := p.code start
    first ++ rowCode l (start + first.length)

/-- The code of alternatives. -/
def choiceCode : List Plain → Nat → List Automaton.Step
  | [], _ => [.take .empty]
  | [p], start => p.code start
  | p :: l, start =>
    let first := p.code (start + 1)
    let others := start + first.length + 2
    let rest := choiceCode l others
    .fork (start + 1) others :: first ++ .jump (others + rest.length) :: rest

end

end Plain

/-- The code of a plain pattern. -/
structure Automaton where
  /-- The steps; a run starts at the first one. -/
  steps : Array Automaton.Step
  /-- The greatest number of a group. -/
  groups : Nat
  deriving Repr

namespace Automaton

/-- The automaton of a plain pattern, unless it takes too much room. -/
def ofPlain? (p : Plain) : Option Automaton :=
  if p.fits then some ⟨(p.code 0 ++ [Step.finish]).toArray, p.lastGroup⟩ else none

/-! ### Runs -/

/-- A way through an automaton. -/
structure Way where
  /-- The step that comes next. -/
  step : Nat
  /-- The place in the text. -/
  pos : Nat
  /-- The places noted up to here, the latest first. -/
  marks : List (Nat × Nat)

/-- What a step makes of a way: the ways on from there in the order of preference. -/
def next (text : Array Char) (w : Way) : Step → List Way
  | .take s =>
    match text[w.pos]? with
    | some c => if s.has c then [{ w with step := w.step + 1, pos := w.pos + 1 }] else []
    | none => []
  | .check a => if a.holds text w.pos then [{ w with step := w.step + 1 }] else []
  | .mark slot => [{ w with step := w.step + 1, marks := (slot, w.pos) :: w.marks }]
  | .fork first second => [{ w with step := first }, { w with step := second }]
  | .jump target => [{ w with step := target }]
  | .finish => []

/-- What a way is known by: its step and its place. -/
def key (a : Automaton) (w : Way) : Nat := w.pos * a.steps.size + w.step

/-- Follows ways, the first of them as far as possible, within `n` steps. Gives the first way
    that comes to the end, and what was tried. -/
def follow (a : Automaton) (text : Array Char) :
    Nat → List Way → Std.HashSet Nat → Option Way × Std.HashSet Nat
  | 0, _, tried | _, [], tried => (none, tried)
  | n + 1, w :: ways, tried =>
    if tried.contains (a.key w) then a.follow text n ways tried
    else
      match a.steps[w.step]? with
      | none => a.follow text n ways tried
      | some .finish => (some w, tried)
      | some s => a.follow text n (next text w s ++ ways) (tried.insert (a.key w))

/-- No run takes more steps: at each step and place there are two ways on at most. -/
def maxSteps (a : Automaton) (text : Array Char) : Nat :=
  2 * a.steps.size * (text.size + 1) + 2

/-- A match of an automaton. -/
structure Found where
  /-- The place where it starts. -/
  first : Nat
  /-- The place where it ends. -/
  last : Nat
  /-- The places noted on the way. -/
  marks : List (Nat × Nat)

/-- The piece of a group, if it took part. -/
def Found.group? (f : Found) (i : Nat) : Option (Nat × Nat) :=
  match f.marks.lookup (2 * i), f.marks.lookup (2 * i + 1) with
  | some first, some last => some (first, last)
  | _, _ => none

/-- The match that starts at a place. -/
def runAt (a : Automaton) (text : Array Char) (i : Nat) : Option Found :=
  match (a.follow text (a.maxSteps text) [⟨0, i, []⟩] ∅).1 with
  | some w => some ⟨i, w.pos, w.marks⟩
  | none => none

/-- The first match that starts at one of `n` places from `i` on. -/
def searchWithin (a : Automaton) (text : Array Char) :
    Nat → Nat → Std.HashSet Nat → Option Found
  | 0, _, _ => none
  | n + 1, i, tried =>
    match a.follow text (a.maxSteps text) [⟨0, i, []⟩] tried with
    | (some w, _) => some ⟨i, w.pos, w.marks⟩
    | (none, tried) => a.searchWithin text n (i + 1) tried

/-- The first match that starts at a place or after it. -/
def search (a : Automaton) (text : Array Char) (i : Nat) : Option Found :=
  a.searchWithin text (text.size + 1 - i) i ∅

end Automaton

end XPathData
