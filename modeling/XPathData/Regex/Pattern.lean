import XPathData.Regex.Flags
import XPathData.Regex.Place
import XPathData.Text.Digits

/-! # Patterns

  A pattern says which pieces of a text it matches. Pieces may be captured in numbered
  groups and repeated, and captured pieces may be asked for again; conditions look at the
  place where they stand. Sets of characters are kept as they are written.
-/

namespace XPathData

/-- How many characters a pattern takes. -/
structure Extent where
  /-- The least number. -/
  least : Nat
  /-- It takes no more than that. -/
  fixed : Bool
  deriving DecidableEq, Repr

/-- A pattern. -/
inductive Pattern where
  /-- The empty piece. -/
  | empty
  /-- Any character, or any one but the line feed. -/
  | any (lineFeed : Bool)
  /-- One character, in any case if case is ignored. -/
  | char (c : Char) (ignoreCase : Bool)
  /-- A plain pattern as it is written, which counts as some number of characters. -/
  | plain (text : List Char) (width : Nat) (ignoreCase : Bool)
  /-- A condition on the place. -/
  | place (a : Place)
  /-- The place where the search began. -/
  | searchStart
  /-- Patterns in a row. -/
  | sequence (l : List Pattern)
  /-- The first of some patterns that leads to a match. -/
  | choice (l : List Pattern)
  /-- A pattern whose piece is captured under a number. -/
  | group (index : Nat) (p : Pattern)
  /-- A pattern a number of times; greedy ones try more repetitions first. -/
  | repeated (p : Pattern) (min : Nat) (max : Option Nat) (greedy : Bool)
  /-- The first way in which a pattern matches, and no other. -/
  | atomic (p : Pattern)
  /-- A pattern matches from here on or up to here, or does not. -/
  | look (behind negative : Bool) (p : Pattern)
  /-- What a group has captured, in any case if case is ignored. -/
  | backref (index : Nat) (extent : Extent) (ignoreCase : Bool)
  /-- A group has captured something. -/
  | isSet (index : Nat)
  /-- One pattern where a condition matches, and else another one. -/
  | cond (condition yes no : Pattern)
  /-- What was matched so far does not count. -/
  | keepOut
  deriving Repr

namespace Pattern

/-! ### Extents -/

mutual

/-- How many characters a pattern takes. -/
def extent : Pattern → Extent
  | empty | place _ | searchStart | isSet _ | keepOut | look .. => ⟨0, true⟩
  | any _ | char .. => ⟨1, true⟩
  | plain _ width _ => ⟨width, true⟩
  | sequence l => extentOfRow l
  | choice l => extentOfChoice l
  | group _ p | atomic p => p.extent
  | repeated p min max _ => ⟨p.extent.least * min, p.extent.fixed && max == some min⟩
  | backref _ e _ => e
  | cond c p q =>
    let c := c.extent
    let p := p.extent
    let q := q.extent
    ⟨c.least + min p.least q.least,
      c.fixed && p.fixed && q.fixed && c.least + p.least == q.least⟩

/-- How many characters patterns in a row take. -/
def extentOfRow : List Pattern → Extent
  | [] => ⟨0, true⟩
  | p :: l =>
    let e := p.extent
    let rest := extentOfRow l
    ⟨e.least + rest.least, e.fixed && rest.fixed⟩

/-- How many characters each of some patterns takes. -/
def extentOfChoice : List Pattern → Extent
  | [] => ⟨0, true⟩
  | [p] => p.extent
  | p :: l =>
    let e := p.extent
    let rest := extentOfChoice l
    ⟨min e.least rest.least, e.fixed && rest.fixed && e.least == rest.least⟩

end

/-! ### Plain patterns -/

mutual

/-- The pattern needs more than looking forward, given the groups that are asked for. -/
def needsMachine (asked : List Nat) : Pattern → Bool
  | empty | any _ | char .. | plain .. => false
  | place a => a.isOnWords
  | sequence l | choice l => anyNeedsMachine asked l
  | group i p => asked.contains i || p.needsMachine asked
  | repeated p .. => p.needsMachine asked
  | searchStart | atomic _ | look .. | backref .. | isSet _ | cond .. | keepOut => true

/-- Some pattern needs more than looking forward. -/
def anyNeedsMachine (asked : List Nat) : List Pattern → Bool
  | [] => false
  | p :: l => p.needsMachine asked || anyNeedsMachine asked l

end

/-- A sign that has a meaning in plain patterns. -/
def isSign (c : Char) : Bool :=
  ['\\', '.', '+', '*', '?', '(', ')', '|', '[', ']', '{', '}', '^', '$', '#'].contains c

/-- A character that stands for itself. -/
def writeChar (c : Char) : List Char := if isSign c then ['\\', c] else [c]

/-- A piece in parentheses that capture nothing, where they are needed. -/
def enclose (needed : Bool) (s : List Char) : List Char :=
  if needed then "(?:".toList ++ s ++ [')'] else s

/-- A piece that ignores case if it has to. -/
def writeIgnoring (ignoreCase : Bool) (s : List Char) : List Char :=
  if ignoreCase then "(?i:".toList ++ s ++ [')'] else s

/-- The sign of a repetition. -/
def writeBounds (min : Nat) (max : Option Nat) : List Char :=
  match min, max with
  | 0, some 1 => ['?']
  | 0, none => ['*']
  | 1, none => ['+']
  | min, max =>
    let more :=
      match max with
      | some max => if max = min then [] else ',' :: Text.writeNat max
      | none => [',']
    '{' :: Text.writeNat min ++ more ++ ['}']

mutual

/-- A pattern in the language of plain patterns. The piece may stand among alternatives at
    level 0, as one of them at level 1, in a row at level 2 and before a repetition at level 3.
    What that language cannot say is left out. -/
def write : Pattern → Nat → List Char
  | any lineFeed, _ => if lineFeed then "(?s:.)".toList else ['.']
  | char c ignoreCase, _ => writeIgnoring ignoreCase (writeChar c)
  | plain s _ ignoreCase, _ => writeIgnoring ignoreCase s
  | place .textStart, _ => ['^']
  | place .textEnd, _ => ['$']
  | place .lineStart, _ => "(?m:^)".toList
  | place .lineEnd, _ => "(?m:$)".toList
  | sequence l, level => enclose (1 < level) (writeRow l)
  | choice l, level => enclose (0 < level) (writeChoice l)
  | group _ p, _ => '(' :: p.write 0 ++ [')']
  | repeated p min max greedy, level =>
    enclose (2 < level) (p.write 3 ++ writeBounds min max ++ if greedy then [] else ['?'])
  | _, _ => []

/-- Patterns in a row. -/
def writeRow : List Pattern → List Char
  | [] => []
  | p :: l => p.write 2 ++ writeRow l

/-- Alternatives. -/
def writeChoice : List Pattern → List Char
  | [] => []
  | [p] => p.write 1
  | p :: l => p.write 1 ++ '|' :: writeChoice l

end

/-! ### Parts -/

mutual

/-- The numbers of the groups in a pattern. -/
def groups : Pattern → List Nat
  | sequence l | choice l => groupsOfAll l
  | group i p => i :: p.groups
  | repeated p .. | atomic p | look _ _ p => p.groups
  | cond c p q => c.groups ++ p.groups ++ q.groups
  | _ => []

/-- The numbers of the groups in some patterns. -/
def groupsOfAll : List Pattern → List Nat
  | [] => []
  | p :: l => p.groups ++ groupsOfAll l

end

mutual

/-- The characters of a pattern that is nothing but some characters in a row. -/
def literal? : Pattern → Option (List Char)
  | char c false => some [c]
  | sequence l => literalOfRow? l
  | _ => none

/-- The characters of patterns in a row that are nothing else. -/
def literalOfRow? : List Pattern → Option (List Char)
  | [] => some []
  | p :: l =>
    match p.literal?, literalOfRow? l with
    | some s, some t => some (s ++ t)
    | _, _ => none

end

/-- Conditions and the empty piece cannot be repeated. -/
def isRepeatable : Pattern → Bool
  | empty | place _ | searchStart | look .. | keepOut | isSet _ => false
  | _ => true

/-- The pattern is the empty piece. -/
def isEmpty : Pattern → Bool
  | empty => true
  | _ => false

/-- The pattern starts with the start of the text. -/
def isAnchored : Pattern → Bool
  | place .textStart | sequence (place .textStart :: _) => true
  | _ => false

/-- Patterns in a row. -/
def inRow : List Pattern → Pattern
  | [] => empty
  | [p] => p
  | l => sequence l

end Pattern

end XPathData
