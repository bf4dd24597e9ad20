import XPathData.Regex.Flags
import XPathData.Regex.Plain.Basic
import XPathData.Text.Reader
import XPathData.Unicode.Property

/-! # Reading plain patterns

  Flags that are set on the way hold up to the end of the group around them, and groups are
  numbered in the order of their opening parentheses. A backslash makes signs literal and
  letters stand for sets, classes stand in brackets, and a pattern may nest only so deep.
-/

namespace XPathData

open Unicode

/-! ### The state of reading -/

/-- What holds where the reading of a plain pattern has come to. -/
structure PlainScan where
  /-- The flags that hold here. -/
  flags : PatternFlags
  /-- The number of groups that were opened. -/
  groups : Nat

/-- A part of the reading of a plain pattern. -/
abbrev PlainReader := Text.Reader PlainScan

/-- A pattern that was read, with the number of levels that are nested in it. -/
structure NestedPlain where
  /-- The pattern. -/
  plain : Plain
  /-- The levels. -/
  depth : Nat
  /-- A repetition may follow. -/
  repeatable : Bool

namespace PlainReader

open Text.Reader

/-- Case does not matter here. -/
def ignoreCase : PlainReader Bool := do return (← state).flags.ignoreCase

/-! ### Escapes -/

/-- One character, or one of a set. -/
inductive Member where
  | char (c : Char)
  | set (s : CharSet)

/-- The set of a member. -/
def Member.toSet : Member → CharSet
  | char c => .single c
  | set s => s

/-- A sign of ASCII, which a backslash makes literal. -/
def isSign (c : Char) : Bool :=
  let n := c.toNat
  (0x21 ≤ n && n ≤ 0x2F) || (0x3A ≤ n && n ≤ 0x40 && c != '<' && c != '>') ||
    (0x5B ≤ n && n ≤ 0x60) || (0x7B ≤ n && n ≤ 0x7E)

/-- Reads the name of a property and gives its set. -/
def property (negative : Bool) : PlainReader CharSet := do
  let set? ←
    match ← rest with
    | [] => failure
    | '{' :: r =>
      goTo (r.dropWhile (· != '}'))
      expect "\x7d"
      pure (Property.braced? (r.takeWhile (· != '}')))
    | c :: r =>
      goTo r
      pure (Property.named? [c])
  match set? with
  | some s => return (s.ignoring (← ignoreCase)).negated negative
  | none => failure

/-- Reads what follows a backslash. -/
def escaped : PlainReader Member := do
  match ← peek? with
  | none => failure
  | some c =>
    skip
    match c with
    | 'd' => return .set .digit
    | 'D' => return .set CharSet.digit.compl
    | 's' => return .set .space
    | 'S' => return .set CharSet.space.compl
    | 'w' => return .set .word
    | 'W' => return .set CharSet.word.compl
    | 'p' => return .set (← property false)
    | 'P' => return .set (← property true)
    | c => if isSign c then return .char c else failure

/-! ### Classes -/

/-- The operations on sets that a class can hold. -/
inductive ClassOp where
  | inter
  | diff
  | symmDiff

/-- The operation on two sets. -/
def ClassOp.apply : ClassOp → CharSet → CharSet → CharSet
  | inter => .inter
  | diff => .diff
  | symmDiff => .symmDiff

/-- The sign of an operation and what follows it. -/
def classOp? : List Char → Option (ClassOp × List Char)
  | '&' :: '&' :: r => some (.inter, r)
  | '-' :: '-' :: r => some (.diff, r)
  | '~' :: '~' :: r => some (.symmDiff, r)
  | _ => none

/-- Reads a class of ASCII behind its opening bracket: a name between colons. -/
def asciiClass? : PlainReader (Option CharSet) := do
  match ← rest with
  | ':' :: r =>
    let negative := r.head? == some '^'
    let r := if negative then r.tail else r
    let n := r.takeWhile (· != ':')
    match r.drop n.length, CharSet.ascii? (String.ofList n) with
    | ':' :: ']' :: r, some s =>
      goTo r
      return some ((s.ignoring (← ignoreCase)).negated negative)
    | _, _ => return none
  | _ => return none

/-- Reads a character or an escape. -/
def member : PlainReader Member := do
  match ← peek? with
  | none => failure
  | some c =>
    skip
    if c = '\\' then escaped else return .char c

/-- Reads a member of a class, or two with a hyphen between them that are the ends of a range. -/
def range : PlainReader CharSet := do
  let first ← member
  match ← rest with
  | [] => failure
  | '-' :: ']' :: _ | '-' :: '-' :: _ => return first.toSet
  | '-' :: r =>
    goTo r
    match first, ← member with
    | .char a, .char b => if a ≤ b then return .range a b else failure
    | _, _ => failure
  | _ => return first.toSet

/-- A class up to some place: the members since the last operation, and what that operation
    waits for. -/
structure ClassState where
  /-- The members. -/
  members : CharSet
  /-- The number of the pieces they were read from. -/
  count : Nat
  /-- The levels that are nested in them. -/
  depth : Nat
  /-- The operation with its left operand and the levels of that. -/
  pending : Option (ClassOp × CharSet × Nat)

namespace ClassState

/-- Adds members. -/
def add (s : ClassState) (set : CharSet) (depth : Nat) : ClassState :=
  { s with members := s.members.union set, count := s.count + 1, depth := max s.depth depth }

/-- The set up to here with its levels. -/
def close (ignoreCase : Bool) (s : ClassState) : CharSet × Nat :=
  let members := s.members.ignoring ignoreCase
  let depth := if s.count < 2 then s.depth else s.depth + 1
  match s.pending with
  | none => (members, depth)
  | some (op, left, leftDepth) => (op.apply left members, max leftDepth depth + 1)

/-- Goes on behind the sign of an operation. -/
def operate (ignoreCase : Bool) (s : ClassState) (op : ClassOp) : ClassState :=
  ⟨.empty, 0, 0, some (op, s.close ignoreCase)⟩

end ClassState

mutual

/-- Reads the members of a class and the bracket that closes it. -/
def members : Nat → ClassState → PlainReader (CharSet × Nat)
  | 0, _ => failure
  | n + 1, s => do
    if ← accept "]" then return s.close (← ignoreCase)
    match classOp? (← rest) with
    | some (op, r) =>
      goTo r
      members n (s.operate (← ignoreCase) op)
    | none =>
      if ← accept "[" then
        match ← asciiClass? with
        | some set => members n (s.add set 0)
        | none =>
          let (set, depth) ← brackets n
          members n (s.add set depth)
      else members n (s.add (← range) 0)

/-- Reads a class behind its opening bracket. -/
def brackets : Nat → PlainReader (CharSet × Nat)
  | 0 => failure
  | n + 1 => do
    let negative ← accept "^"
    -- Hyphens that come first stand for themselves, or else a closing bracket.
    let hyphens := (← rest).takeWhile (· == '-')
    goTo ((← rest).drop hyphens.length)
    let start : ClassState := hyphens.foldl (fun s c => s.add (.single c) 0) ⟨.empty, 0, 0, none⟩
    let start ←
      if hyphens.isEmpty then
        if ← accept "]" then pure (start.add (.single ']') 0) else pure start
      else pure start
    let (set, depth) ← members n start
    return ((set.ignoring (← ignoreCase)).negated negative, depth + 1)

end

/-! ### Repetitions -/

/-- The greatest number of times that a repetition can name. -/
def maxTimes : Nat := 0xFFFFFFFF

/-- Reads the bounds of a repetition behind its opening brace. -/
def bounds : PlainReader (Nat × Option Nat) := do
  match ← number? with
  | none => failure
  | some min =>
    let max ← if ← accept "," then number? else pure (some min)
    expect "\x7d"
    if maxTimes < min || max.any (fun n => n < min || maxTimes < n) then failure
    return (min, max)

/-- Reads the sign of a repetition, if there is one. -/
def repetition? : PlainReader (Option (Nat × Option Nat)) := do
  if ← accept "?" then return some (0, some 1)
  if ← accept "*" then return some (0, none)
  if ← accept "+" then return some (1, none)
  if ← accept "\x7b" then return some (← bounds)
  return none

/-- Reads the repetitions of a pattern, each of which repeats what stands before it. -/
def repetitions : Nat → NestedPlain → PlainReader NestedPlain
  | 0, _ => failure
  | n + 1, p => do
    match ← repetition? with
    | none => return p
    | some (min, max) =>
      if !p.repeatable then failure
      let greedy := !(← accept "?")
      let p' := p.plain.times min max (greedy != (← state).flags.lazy)
      repetitions n ⟨p', p.depth + 1, true⟩

/-! ### Patterns -/

/-- Reads flags and the sign behind them, and tells whether it is a colon. -/
def readFlags : Nat → Bool → PlainReader Bool
  | 0, _ => failure
  | n + 1, value => do
    match ← peek? with
    | none => failure
    | some c =>
      skip
      if c = ':' then return true
      if c = ')' then return false
      if c = '-' then readFlags n false
      else
        match (← state).flags.change? value c with
        | some f =>
          update fun s => { s with flags := f }
          readFlags n value
        | none => failure

/-- Opens a group and gives its number. -/
def openGroup : PlainReader Nat := do
  update fun s => { s with groups := s.groups + 1 }
  return (← state).groups

/-- A character by itself. -/
def literal (c : Char) : PlainReader Plain := do
  return Plain.ofSet ((CharSet.single c).ignoring (← ignoreCase))

/-- One pattern of some in a row. -/
def inRow (l : List NestedPlain) : NestedPlain :=
  match l with
  | [] => ⟨.empty, 0, false⟩
  | [p] => p
  | l => ⟨.sequence (l.map (·.plain)), (l.map (·.depth)).foldl max 0 + 1, true⟩

/-- One pattern of alternatives. -/
def oneOf (l : List NestedPlain) : NestedPlain :=
  match l with
  | [p] => p
  | l => ⟨.oneOf (l.map (·.plain)), (l.map (·.depth)).foldl max 0 + 1, true⟩

mutual

/-- Reads alternatives. -/
def alternatives : Nat → PlainReader (List NestedPlain)
  | 0 => failure
  | n + 1 => do
    let p := inRow (← row n)
    if ← accept "|" then return p :: (← alternatives n) else return [p]

/-- Reads what stands in a row. -/
def row : Nat → PlainReader (List NestedPlain)
  | 0 => failure
  | n + 1 => do
    match ← peek? with
    | none | some '|' | some ')' => return []
    | some _ =>
      let p ← repetitions n (← atom n)
      return p :: (← row n)

/-- Reads a piece without its repetitions. -/
def atom : Nat → PlainReader NestedPlain
  | 0 => failure
  | n + 1 => do
    let f := (← state).flags
    match ← peek? with
    | none => failure
    | some c =>
      skip
      match c with
      | '?' | '*' | '+' | '{' => failure
      | '.' => return ⟨.ofSet (if f.dotAll then .all else .notLineFeed), 0, true⟩
      | '^' => return ⟨.place (if f.lines then .lineStart else .textStart), 0, true⟩
      | '$' => return ⟨.place (if f.lines then .lineEnd else .textEnd), 0, true⟩
      | '(' => parenthesis n
      | '[' =>
        let (set, depth) ← brackets n
        return ⟨.ofSet set, depth, true⟩
      | '\\' =>
        match ← escaped with
        | .char c => return ⟨← literal c, 0, true⟩
        | .set s => return ⟨.ofSet s, 0, true⟩
      | c => return ⟨← literal c, 0, true⟩

/-- Reads what follows an opening parenthesis. -/
def parenthesis : Nat → PlainReader NestedPlain
  | 0 => failure
  | n + 1 => do
    let before := (← state).flags
    if ← accept "?" then
      if ← readFlags ((← rest).length + 1) true then
        let p := oneOf (← alternatives n)
        expect ")"
        update fun s => { s with flags := before }
        return ⟨p.plain, p.depth + 1, true⟩
      else return ⟨.empty, 0, false⟩
    else
      let i ← openGroup
      let p := oneOf (← alternatives n)
      expect ")"
      update fun s => { s with flags := before }
      return ⟨.group i p.plain, p.depth + 1, true⟩

end

end PlainReader

namespace Plain

/-- How deep a pattern may nest. -/
def maxDepth : Nat := 250

/-- Reads a whole pattern under some flags. -/
def read? (s : List Char) (flags : PatternFlags) : Option Plain :=
  match (PlainReader.alternatives (8 * s.length + 8)).run (s, ⟨flags, 0⟩) with
  | some (l, ([], _)) =>
    let p := PlainReader.oneOf l
    if p.depth ≤ maxDepth then some p.plain else none
  | _ => none

end Plain

end XPathData
