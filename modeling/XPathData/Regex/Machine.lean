import XPathData.Regex.Program
import XPathData.Text.Split

/-! # Machine

  The machine follows a program through a text. Where a branch comes, it goes on at the
  first of the two instructions and keeps what it needs to come back for the second one.
  Where it cannot go on, it goes back to the last branch; it does so only so many times.
-/

namespace XPathData

open Unicode

/-! ### Faults -/

/-- Why a search has come to no end. -/
inductive SearchFault where
  /-- Too many ways were tried. -/
  | exhausted
  deriving DecidableEq, Repr

namespace Machine

/-- How often the machine may go back, and how many branches it can keep. -/
def limit : Nat := 1000000

/-! ### States -/

/-- What the machine keeps at a branch. -/
structure Branch where
  /-- The instruction to go on at. -/
  target : Nat
  /-- The place in the text. -/
  pos : Nat
  /-- What was noted. -/
  slots : Array (Option Nat)
  /-- The numbers of branches that were noted. -/
  levels : List Nat

/-- Where the machine has come to. -/
structure State where
  /-- The instruction that comes next. -/
  pc : Nat
  /-- The place in the text. -/
  pos : Nat
  /-- What was noted. -/
  slots : Array (Option Nat)
  /-- The numbers of branches that were noted. -/
  levels : List Nat
  /-- The branches, the last one first. -/
  branches : List Branch
  /-- The number of branches. -/
  height : Nat
  /-- How often the machine has gone back. -/
  returns : Nat

namespace State

/-- Before the first instruction of a program. -/
def start (p : Program) (pos : Nat) : State :=
  ⟨0, pos, Array.replicate p.slots none, [], [], 0, 0⟩

/-- What a slot holds. -/
def get? (s : State) (slot : Nat) : Option Nat := (s.slots[slot]?).join

/-- Notes something. -/
def put (s : State) (slot : Nat) (value : Option Nat) : State :=
  { s with slots := s.slots.setIfInBounds slot value }

/-- Goes on with the next instruction. -/
def next (s : State) : State := { s with pc := s.pc + 1 }

/-- Goes on elsewhere. -/
def goTo (s : State) (target : Nat) : State := { s with pc := target }

/-- Goes on at another place of the text with the next instruction. -/
def advance (s : State) (pos : Nat) : State := { s with pc := s.pc + 1, pos }

/-- Keeps a branch to another instruction. -/
def keep (s : State) (target : Nat) : State :=
  { s with
    branches := ⟨target, s.pos, s.slots, s.levels⟩ :: s.branches
    height := s.height + 1 }

/-- Forgets all but some number of branches. -/
def cut (s : State) (height : Nat) : State :=
  { s with branches := s.branches.drop (s.height - height), height := min s.height height }

/-- Forgets the last branch and goes back to it. -/
def back? (s : State) : Option State :=
  match s.branches with
  | [] => none
  | b :: branches =>
    some ⟨b.target, b.pos, b.slots, b.levels, branches, s.height - 1, s.returns + 1⟩

end State

/-! ### Instructions -/

/-- What comes of an instruction. -/
inductive Outcome where
  /-- The machine goes on. -/
  | continue (s : State)
  /-- The machine cannot go on. -/
  | fail (s : State)
  /-- The match is complete. -/
  | done (s : State)

/-- What a machine looks for its matches in. -/
structure Subject where
  /-- The text. -/
  text : Array Char
  /-- The place where the search began. -/
  origin : Nat
  /-- A character was left out before that place, since the match before it was empty. -/
  skipped : Bool

/-- The text has these characters at a place. -/
def hasText (text : Array Char) (i : Nat) : List Char → Bool
  | [] => true
  | c :: s => text[i]? == some c && hasText text (i + 1) s

/-- The characters from `first` up to `last`. -/
def slice (text : Array Char) (first last : Nat) : List Char :=
  (text.extract first last).toList

/-- A text occurs somewhere in another one, in any case. -/
def occursFolded (s : List Char) : List Char → Bool
  | [] => s.isEmpty
  | c :: t =>
    ((c :: t).map fold).take s.length == s.map fold || occursFolded s t

/-- One text stands for another one whatever the case. Both have the same number of bytes;
    within ASCII they are the same up to case, and else it is enough that the one occurs in
    the other. -/
def sameFolded (s t : List Char) : Bool :=
  s == t ||
    if t.all (·.toNat < 0x80) then s.map Char.toLower == t.map Char.toLower
    else occursFolded s t

/-- Where the characters end that stand for a captured text at a place. -/
def endOfBackref? (text : Array Char) (s : List Char) (i : Nat) (ignoreCase : Bool) :
    Option Nat :=
  if ignoreCase then
    -- As many bytes as the captured text has are as many characters at most.
    match Text.takeBytes (Text.utf8Size s) (slice text i (i + Text.utf8Size s)) with
    | some (t, _) => if sameFolded s t then some (i + t.length) else none
    | none => none
  else if hasText text i s then some (i + s.length)
  else none

/-- Notes what an automaton has captured; a group that took no part is unset. -/
def capture (f : Automaton.Found) (first : Nat) : Nat → State → State
  | 0, s => s
  | n + 1, s =>
    let s := capture f first n s
    let piece := f.group? (n + 1)
    (s.put (2 * (first + n)) (piece.map (·.1))).put (2 * (first + n) + 1) (piece.map (·.2))

/-- Follows an instruction. -/
def follow (subject : Subject) (s : State) : Instruction → Outcome
  | .finish => .done s
  | .any lineFeed =>
    match subject.text[s.pos]? with
    | some c => if lineFeed || c != '\n' then .continue (s.advance (s.pos + 1)) else .fail s
    | none => .fail s
  | .text t =>
    if hasText subject.text s.pos t then .continue (s.advance (s.pos + t.length)) else .fail s
  | .check a => if a.holds subject.text s.pos then .continue s.next else .fail s
  | .searchStart =>
    if s.pos ≤ subject.origin && !subject.skipped then .continue s.next else .fail s
  | .branch first second => .continue ((s.keep second).goTo first)
  | .jump target => .continue (s.goTo target)
  | .save slot => .continue (s.put slot (some s.pos)).next
  | .reset slot => .continue (s.put slot (some 0)).next
  | .restore slot => .continue (s.advance ((s.get? slot).getD s.pos))
  | .back width => if width ≤ s.pos then .continue (s.advance (s.pos - width)) else .fail s
  | .count greedy min max exit counter =>
    let n := (s.get? counter).getD 0
    if max = some n then .continue (s.goTo exit)
    else
      let t := s.put counter (some (n + 1))
      if n < min then .continue t.next
      else if greedy then .continue (t.keep exit).next
      else .continue ((t.keep (s.pc + 1)).goTo exit)
  | .countMoving greedy min exit counter place =>
    let n := (s.get? counter).getD 0
    if 0 < n && s.get? place = some s.pos then .continue (s.goTo exit)
    else
      let t := s.put counter (some (n + 1))
      if n < min then .continue t.next
      else
        let t := t.put place (some s.pos)
        if greedy then .continue (t.keep exit).next
        else .continue ((t.keep (s.pc + 1)).goTo exit)
  | .refuse =>
    -- Branches up to the one of this look-around are forgotten, and that one too.
    let isInside (b : Branch) : Bool := b.target != s.pc + 1
    let inside := (s.branches.takeWhile isInside).length
    .fail (s.cut (s.height - inside - 1))
  | .backref i ignoreCase =>
    match s.get? (2 * i), s.get? (2 * i + 1) with
    | some first, some last =>
      -- A group that was opened again has its old end, which may come before the new start.
      if last < first then .fail s
      else
        match endOfBackref? subject.text (slice subject.text first last) s.pos ignoreCase with
        | some pos => .continue (s.advance pos)
        | none => .fail s
    | _, _ => .fail s
  | .isSet i =>
    if (s.get? (2 * i)).isSome then .continue s.next else .fail s
  | .beginAtomic => .continue { s with levels := s.height :: s.levels }.next
  | .endAtomic =>
    match s.levels with
    | height :: levels => .continue ({ s with levels }.cut height).next
    | [] => .fail s
  | .run a first groups =>
    match a.runAt subject.text s.pos with
    | some f => .continue ((capture f first groups s).advance f.last)
    | none => .fail s

/-! ### Runs -/

/-- More instructions than a run within the limits can follow. -/
def maxSteps : Nat := 0x10000000000

/-- Follows a program for `n` instructions at most. -/
def run (p : Program) (subject : Subject) : Nat → State → Except SearchFault (Option State)
  | 0, _ => .error .exhausted
  | n + 1, s =>
    let outcome := match p.code[s.pc]? with
      | some i => follow subject s i
      | none => .fail s
    match outcome with
    | .done s => .ok (some s)
    | .continue s =>
      if limit < s.height then .error .exhausted else run p subject n s
    | .fail s =>
      match s.back? with
      | none => .ok none
      | some s => if limit < s.returns then .error .exhausted else run p subject n s

/-- The slots at the end of the first match from the origin on. -/
def search (p : Program) (subject : Subject) : Except SearchFault (Option State) :=
  run p subject maxSteps (.start p subject.origin)

end Machine

end XPathData
