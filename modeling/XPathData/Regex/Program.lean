import XPathData.Regex.Pattern
import XPathData.Regex.Plain.Automaton
import XPathData.Regex.Plain.Reader

/-! # Programs

  A pattern that needs more than looking forward becomes a program. Its parts that are plain
  become automata, which find one way through them and are not asked for another. What is
  left is made of instructions that a machine follows, going back to the last branch where
  it cannot go on.
-/

namespace XPathData

/-! ### Instructions -/

/-- An instruction; after most instructions the next one follows. -/
inductive Instruction where
  /-- The match is complete. -/
  | finish
  /-- Takes any character, or any one but the line feed. -/
  | any (lineFeed : Bool)
  /-- Takes these characters. -/
  | text (s : List Char)
  /-- Goes on where a condition holds. -/
  | check (a : Place)
  /-- Goes on unless the search has left the place where it began. -/
  | searchStart
  /-- Goes on at the first instruction, or else at the second one. -/
  | branch (first second : Nat)
  /-- Goes on elsewhere. -/
  | jump (target : Nat)
  /-- Notes the place. -/
  | save (slot : Nat)
  /-- Notes zero. -/
  | reset (slot : Nat)
  /-- Goes back to a place that was noted. -/
  | restore (slot : Nat)
  /-- Goes back by some characters. -/
  | back (width : Nat)
  /-- Counts a repetition. Leaves for `exit` after the last one, and may do so before if
      there were enough. -/
  | count (greedy : Bool) (min : Nat) (max : Option Nat) (exit counter : Nat)
  /-- Counts a repetition that may take no characters, and leaves for `exit` after one that
      came to the place where the last branch was left. -/
  | countMoving (greedy : Bool) (min exit counter place : Nat)
  /-- Forgets the branches since the one that leads to the next instruction, and fails. -/
  | refuse
  /-- Takes what a group has captured. -/
  | backref (group : Nat) (ignoreCase : Bool)
  /-- Goes on if a group was opened. -/
  | isSet (group : Nat)
  /-- Notes the branches that there are. -/
  | beginAtomic
  /-- Forgets the branches that have come since. -/
  | endAtomic
  /-- Takes what an automaton finds. It captures `groups` groups from `first` on. -/
  | run (a : Automaton) (first groups : Nat)
  deriving Repr

/-- A program. -/
structure Program where
  /-- The instructions. -/
  code : Array Instruction
  /-- The number of slots. Two for each group, the match being the group 0, come first. -/
  slots : Nat
  /-- The number of groups. -/
  groups : Nat
  deriving Repr

/-! ### Code -/

/-- What the code of a pattern depends on. -/
structure CodeContext where
  /-- The flags of the whole pattern. -/
  flags : PatternFlags
  /-- The groups that are referred to. -/
  asked : List Nat

/-- The making of code, which counts the slots and fails for what has no code. -/
abbrev Coding := StateT Nat Option

namespace Coding

/-- A slot of one's own. -/
def newSlot : Coding Nat := modifyGet fun n => (n, n + 1)

/-- The code of patterns in a row that an automaton can follow. -/
def plain (ctx : CodeContext) (l : List Pattern) : Coding (List Instruction) := do
  if l.isEmpty then return []
  match Pattern.literalOfRow? l with
  | some s => return [.text s]
  | none =>
    match (Plain.read? (l.flatMap (·.write 1)) ctx.flags).bind Automaton.ofPlain? with
    | some a =>
      let groups := Pattern.groupsOfAll l
      return [.run a (groups.head?.getD 0) groups.length]
    | none => failure

/-- A pattern with one extent that an automaton can follow. -/
def isSteady (ctx : CodeContext) (p : Pattern) : Bool :=
  p.extent.fixed && !p.needsMachine ctx.asked

/-- The number of patterns at the start of a row, and of others at its end, that automata
    follow. At the end of a row that more follows, they need one extent each. -/
def plainEnds (ctx : CodeContext) (hard : Bool) (l : List Pattern) : Nat × Nat :=
  let start := (l.takeWhile (isSteady ctx)).length
  let fits (p : Pattern) : Bool :=
    if hard then isSteady ctx p else !p.needsMachine ctx.asked
  (start, ((l.drop start).reverse.takeWhile fits).length)

/-- The code that tries a pattern from here on or up to here, and comes back. -/
def lookCode (behind negative : Bool) (e : Extent) (start : Nat)
    (inner : Nat → Coding (List Instruction)) : Coding (List Instruction) := do
  if behind && !e.fixed then failure
  let back := if behind then [Instruction.back e.least] else []
  if negative then
    let code ← inner (start + 1 + back.length)
    let exit := start + back.length + code.length + 2
    return .branch (start + 1) exit :: back ++ code ++ [.refuse]
  else
    let slot ← newSlot
    let code ← inner (start + 1 + back.length)
    return .save slot :: back ++ code ++ [.restore slot]

/-- The code of a repetition. -/
def repeatedCode (min : Nat) (max : Option Nat) (greedy canBeEmpty : Bool) (start : Nat)
    (inner : Nat → Coding (List Instruction)) : Coding (List Instruction) := do
  let prefer (first second : Nat) : Instruction :=
    if greedy then .branch first second else .branch second first
  if min = 0 && max = some 1 then
    let code ← inner (start + 1)
    return prefer (start + 1) (start + 1 + code.length) :: code
  else if max.isNone && canBeEmpty then
    let counter ← newSlot
    let place ← newSlot
    let code ← inner (start + 2)
    let exit := start + code.length + 3
    return .reset counter :: .countMoving greedy min exit counter place :: code ++
      [.jump (start + 1)]
  else if min = 0 && max.isNone then
    let code ← inner (start + 1)
    return prefer (start + 1) (start + code.length + 2) :: code ++ [.jump start]
  else if min = 1 && max.isNone then
    let code ← inner start
    return code ++ [prefer start (start + code.length + 1)]
  else
    let counter ← newSlot
    let code ← inner (start + 2)
    let exit := start + code.length + 3
    return .reset counter :: .count greedy min max exit counter :: code ++ [.jump (start + 1)]

mutual

/-- The code of a pattern from an instruction on. A pattern that is not `hard` is left to an
    automaton where that is possible. -/
def code (ctx : CodeContext) (p : Pattern) (hard : Bool) (start : Nat) :
    Coding (List Instruction) := do
  if !hard && !p.needsMachine ctx.asked then return ← plain ctx [p]
  match p with
  | .empty => return []
  | .any lineFeed => return [.any lineFeed]
  | .char .. | .plain .. => plain ctx [p]
  | .place a => return [.check a]
  | .searchStart => return [.searchStart]
  | .sequence l =>
    let (first, last) := plainEnds ctx hard l
    let head ← plain ctx (l.take first)
    let middle ← rowCode ctx l first (l.length - first - last) (start + head.length)
    let tail ← plain ctx (l.drop (l.length - last))
    return head ++ middle ++ tail
  | .choice l => choiceCode ctx l hard start
  | .group i p =>
    let code ← code ctx p hard (start + 1)
    return .save (2 * i) :: code ++ [.save (2 * i + 1)]
  | .repeated p min max greedy =>
    let single := min = 0 && max = some 1
    let hard := hard || (!single && p.needsMachine ctx.asked)
    repeatedCode min max greedy (p.extent.least = 0) start (code ctx p hard)
  | .atomic p =>
    let code ← code ctx p false (start + 1)
    return .beginAtomic :: code ++ [.endAtomic]
  | .look behind negative p =>
    match p with
    | .choice l =>
      -- Alternatives of different extents are looked for one by one.
      if behind && !p.extent.fixed then
        if negative then lookNoneCode ctx l start else lookAnyCode ctx l start
      else lookCode behind negative p.extent start (choiceOrPlain ctx l)
    | p => lookCode behind negative p.extent start (code ctx p false)
  | .backref i _ ignoreCase => return [.backref i ignoreCase]
  | .isSet i => return [.isSet i]
  | .cond c p q =>
    let condition ← code ctx c hard (start + 2)
    let yes ← code ctx p hard (start + condition.length + 3)
    let other := start + condition.length + yes.length + 4
    let no ← code ctx q hard other
    return .beginAtomic :: .branch (start + 2) other :: condition ++ .endAtomic :: yes ++
      .jump (other + no.length) :: no
  | .keepOut => return [.save 0]

/-- The code of alternatives, or an automaton for them. -/
def choiceOrPlain (ctx : CodeContext) (l : List Pattern) (start : Nat) :
    Coding (List Instruction) := do
  if Pattern.anyNeedsMachine ctx.asked l then choiceCode ctx l false start
  else plain ctx [.choice l]

/-- The code of some patterns of a row: `n` after the first `skip`. -/
def rowCode (ctx : CodeContext) : List Pattern → Nat → Nat → Nat → Coding (List Instruction)
  | [], _, _, _ => return []
  | _ :: l, skip + 1, n, start => rowCode ctx l skip n start
  | _, 0, 0, _ => return []
  | p :: l, 0, n + 1, start => do
    let first ← code ctx p true start
    return first ++ (← rowCode ctx l 0 n (start + first.length))

/-- The code of alternatives. -/
def choiceCode (ctx : CodeContext) : List Pattern → Bool → Nat → Coding (List Instruction)
  | [], _, _ => return []
  | [p], hard, start => code ctx p hard start
  | p :: l, hard, start => do
    let first ← code ctx p hard (start + 1)
    let other := start + first.length + 2
    let rest ← choiceCode ctx l hard other
    return .branch (start + 1) other :: first ++ .jump (other + rest.length) :: rest

/-- The code that looks behind for one of some patterns. -/
def lookAnyCode (ctx : CodeContext) : List Pattern → Nat → Coding (List Instruction)
  | [], _ => return []
  | [p], start => lookCode true false p.extent start (code ctx p false)
  | p :: l, start => do
    let first ← lookCode true false p.extent (start + 1) (code ctx p false)
    let other := start + first.length + 2
    let rest ← lookAnyCode ctx l other
    return .branch (start + 1) other :: first ++ .jump (other + rest.length) :: rest

/-- The code that looks behind for none of some patterns. -/
def lookNoneCode (ctx : CodeContext) : List Pattern → Nat → Coding (List Instruction)
  | [], _ => return []
  | p :: l, start => do
    let first ← lookCode true true p.extent start (code ctx p false)
    return first ++ (← lookNoneCode ctx l (start + first.length))

end

end Coding

namespace Program

/-- The code that goes on to the next character where what follows fails. -/
def advance : List Instruction := [.branch 3 1, .any true, .jump 0]

/-- The program of a pattern with some number of groups. The pattern itself captures the
    group 0 if `wholeInside` holds. -/
def ofPattern? (p : Pattern) (flags : PatternFlags) (asked : List Nat) (groups : Nat)
    (wholeInside : Bool) : Option Program := do
  let head := if p.isAnchored then [] else advance
  let head := if wholeInside then head else head ++ [.save 0]
  let tail := if wholeInside then [.finish] else [.save 1, .finish]
  let (code, slots) ← (Coding.code ⟨flags, asked⟩ p false head.length).run (2 * groups + 2)
  return ⟨(head ++ code ++ tail).toArray, slots, groups⟩

end Program

end XPathData
