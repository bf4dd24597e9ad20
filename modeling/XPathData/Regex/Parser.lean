import XPathData.Regex.Pattern
import XPathData.Text.Hex
import XPathData.Text.Reader
import XPathData.Unicode.Alphabetic
import XPathData.Unicode.Category

/-! # Reading patterns

  A pattern is read from left to right. Flags that are set on the way hold for what
  follows, groups are numbered in the order of their opening parentheses, and a
  reference needs a group that is somewhere in the pattern. Classes are not looked into:
  all that is found out about a class is where it ends.
-/

namespace XPathData

open Unicode

/-! ### The state of reading -/

/-- What holds where the reading of a pattern has come to. -/
structure PatternScan where
  /-- The flags that hold here. -/
  flags : PatternFlags
  /-- The number of groups that were opened. -/
  groups : Nat
  /-- The groups with names. -/
  names : List (String × Nat)
  /-- The groups that were closed, with their extents. -/
  closed : List (Nat × Extent)
  /-- The groups that were referred to. -/
  asked : List Nat
  /-- A group was referred to by its number. -/
  numbered : Bool
  /-- No group with this number or a greater one can be referred to. -/
  limit : Nat

/-- A part of the reading of a pattern. -/
abbrev PatternReader := Text.Reader PatternScan

namespace PatternReader

open Text.Reader

/-- Case does not matter here. -/
def ignoreCase : PatternReader Bool := do return (← state).flags.ignoreCase

/-! ### White space and comments -/

/-- What follows a comment, if its end is there. -/
def commentEnd? : List Char → Option (List Char)
  | [] => none
  | ')' :: r => some r
  | '\\' :: _ :: r => commentEnd? r
  | _ :: r => commentEnd? r

/-- What follows white space and comments at the start; none if a comment has no end. -/
def dropSpaceWithin (spaced : Bool) : Nat → List Char → Option (List Char)
  | 0, s => some s
  | n + 1, s =>
    match s with
    | '(' :: '?' :: '#' :: r => (commentEnd? r).bind (dropSpaceWithin spaced n)
    | c :: r =>
      if !spaced then some s
      else if c = '#' then dropSpaceWithin spaced n (r.dropWhile (· != '\n')).tail
      else if c = ' ' || c = '\r' || c = '\n' || c = '\t' then dropSpaceWithin spaced n r
      else some s
    | [] => some []

/-- Goes on behind white space and comments. -/
def space : PatternReader Unit := do
  let s ← rest
  match dropSpaceWithin (← state).flags.spaced s.length s with
  | some r => goTo r
  | none => failure

/-! ### References -/

/-- A reference to a group, which may come later. -/
def backref (i : Nat) : PatternReader Pattern := do
  update fun s => { s with asked := i :: s.asked }
  let s ← state
  -- Nothing is known of the extent of a group that is still open.
  return .backref i ((s.closed.lookup i).getD ⟨0, false⟩) s.flags.ignoreCase

/-- Reads the number of a group that is referred to. -/
def numberedBackref : PatternReader Pattern := do
  match ← number? with
  | some i =>
    if (← state).limit ≤ i then failure
    update fun s => { s with numbered := true }
    backref i
  | none => failure

/-- A character of the name of a group. -/
def isNameChar (c : Char) : Bool := isAlphabetic c || isNumber c || c == '_'

/-- Reads the name of a group that opens, with two marks around it. -/
def name (start stop : String) : PatternReader String := do
  expect start
  let s ← rest
  let n := s.takeWhile isNameChar
  if n.isEmpty then failure
  goTo (s.drop n.length)
  expect stop
  return String.ofList n

/-- The group that some steps lead to from the group opened last; a step back may stay there. -/
def groupAway (back : Bool) (steps : Nat) : PatternReader Nat := do
  let n := (← state).groups
  if steps = 0 then failure
  if !back then return n + steps
  if n + 1 < steps then failure
  return n + 1 - steps

/-- Reads a group that is referred to, with two marks around it: a name, a number, or a sign
    and the number of steps from here. -/
def namedGroup (start stop : String) (relative : Bool) : PatternReader Nat := do
  expect start
  let s ← rest
  let n := s.takeWhile isNameChar
  goTo (s.drop n.length)
  if n.isEmpty then
    if !relative then failure
    let back ← accept "-"
    if !back then expect "+"
    match ← number? with
    | some steps =>
      expect stop
      groupAway back steps
    | none => failure
  else
    expect stop
    match (← state).names.lookup (String.ofList n) with
    | some i => return i
    | none => if n.all Text.isDigit then return Text.readDigits n else failure

/-- Reads a reference by name. -/
def namedBackref (start stop : String) (relative : Bool) : PatternReader Pattern := do
  backref (← namedGroup start stop relative)

/-! ### Escapes -/

/-- The pattern of one character. -/
def literal (c : Char) : PatternReader Pattern := do return .char c (← ignoreCase)

/-- Reads a code point of `digits` hexadecimal digits, or of some in braces. -/
def codePoint (digits : Nat) : PatternReader Pattern := do
  let s ← rest
  let isHex (c : Char) : Bool := (Text.Hex.value? c).isSome
  let fixed := s.take digits
  let hex ←
    if fixed.length = digits && fixed.all isHex then
      goTo (s.drop digits)
      pure fixed
    else do
      expect "\x7b"
      let s ← rest
      let hex := s.takeWhile isHex
      if hex.isEmpty || 8 < hex.length then failure
      goTo (s.drop hex.length)
      expect "\x7d"
      pure hex
  let n := Text.Hex.number hex
  if h : n.isValidChar then literal (Char.ofNatAux n h) else failure

/-- Reads a property behind its letter, as it is written. -/
def property (letter : Char) : PatternReader Pattern := do
  match ← rest with
  | [] => failure
  | '{' :: r =>
    let inner := r.takeWhile (· != '}')
    goTo (r.drop inner.length)
    expect "\x7d"
    return .plain ('\\' :: letter :: '{' :: inner ++ ['}']) 1 (← ignoreCase)
  | c :: r =>
    goTo r
    return .plain ['\\', letter, c] 1 (← ignoreCase)

/-- A character that stands for itself behind a backslash: no letter or digit of ASCII. -/
def isLiteralEscape (c : Char) : Bool := !c.isAlphanum

/-- A condition on words, which no brace may follow. -/
def wordPlace (a : Place) : PatternReader Pattern := do
  if (← peek?) = some '{' then failure
  return .place a

/-- Line feeds up to the end of the text. -/
def lastLineEnd : Pattern := .look false false (.plain ['\n', '*', '$'] 0 false)

/-- What a letter or sign stands for outside of classes. -/
def outerEscape? : Char → Option (PatternReader Pattern)
  | 'k' => some do
    if (← peek?) = some '\'' then namedBackref "'" "'" true else namedBackref "<" ">" true
  | 'A' => some (pure (.place .textStart))
  | 'z' => some (pure (.place .textEnd))
  | 'Z' => some (pure lastLineEnd)
  | 'b' => some (wordPlace .wordBoundary)
  | 'B' => some (wordPlace .noWordBoundary)
  | '<' => some (pure (.place .wordStart))
  | '>' => some (pure (.place .wordEnd))
  | 'G' => some (pure .searchStart)
  | 'K' => some (pure .keepOut)
  | 'O' => some (pure (.any true))
  | _ => none

/-- What some letters stand for in classes only. -/
def classEscape? : Char → Option (PatternReader Pattern)
  | 'b' => some (literal '\x08')
  | 'k' => some (literal 'k')
  | 'A' => some (literal 'A')
  | 'z' => some (literal 'z')
  | 'B' => some (literal 'B')
  | 'G' => some (literal 'G')
  | 'K' => some (literal 'K')
  | _ => none

/-- What a letter or sign stands for everywhere. -/
def escapeOf (c : Char) : PatternReader Pattern := do
  match c with
  | 'd' | 'D' | 's' | 'S' | 'w' | 'W' => return .plain ['\\', c] 1 (← ignoreCase)
  | 'h' => return .plain "[0-9A-Fa-f]".toList 1 false
  | 'H' => return .plain "[^0-9A-Fa-f]".toList 1 false
  | 'x' => codePoint 2
  | 'u' => codePoint 4
  | 'U' => codePoint 8
  | 'p' | 'P' => property c
  | 'a' => literal '\x07'
  | 'f' => literal '\x0c'
  | 'n' => literal '\n'
  | 'r' => literal '\r'
  | 't' => literal '\t'
  | 'v' => literal '\x0b'
  | 'e' => literal '\x1b'
  | c => if isLiteralEscape c then literal c else failure

/-- Reads what follows a backslash. -/
def escape (inClass : Bool) : PatternReader Pattern := do
  match ← rest with
  | [] => failure
  | c :: r =>
    if Text.isDigit c then numberedBackref
    else
      goTo r
      match if inClass then classEscape? c else outerEscape? c with
      | some e => e
      | none => escapeOf c

/-! ### Classes -/

/-- A sign that has a meaning in classes or elsewhere in plain patterns. -/
def isClassSign (c : Char) : Bool := Pattern.isSign c || c == '&' || c == '-' || c == '~'

/-- Reads a class up to the bracket that closes it, which is found by counting. The text is
    kept, but escapes are written anew. -/
def classText : Nat → Nat → PatternReader (List Char)
  | 0, _ => failure
  | n + 1, depth => do
    match ← rest with
    | [] => failure
    | '\\' :: r =>
      goTo r
      match ← escape true with
      | .char c _ =>
        return (if isClassSign c then ['\\', c] else [c]) ++ (← classText n depth)
      | .plain s _ _ => return s ++ (← classText n depth)
      | _ => failure
    | '[' :: r => goTo r; return '[' :: (← classText n (depth + 1))
    | ']' :: r =>
      goTo r
      match depth with
      | 0 => return [']']
      | d + 1 => return ']' :: (← classText n d)
    | c :: r => goTo r; return c :: (← classText n depth)

/-- Reads a class behind its opening bracket. -/
def charClass : PatternReader Pattern := do
  let negation ← accept "^"
  -- A closing bracket that comes first is a member.
  let bracket ← accept "]"
  let head := (if negation then ['^'] else []) ++ (if bracket then [']'] else [])
  let s ← classText ((← rest).length + 1) 0
  return .plain ('[' :: head ++ s) 1 (← ignoreCase)

/-! ### Repetitions -/

/-- Reads the bounds of a repetition behind its opening brace. -/
def bounds : PatternReader (Nat × Option Nat) := do
  space
  let min ←
    if (← peek?) = some ',' then pure 0
    else
      match ← number? with
      | some n => pure n
      | none => failure
  space
  let max ←
    if ← accept "," then
      space
      number?
    else pure (some min)
  space
  expect "\x7d"
  return (min, max)

/-- Reads the marks of a repetition, if there are any. -/
def repetition? : PatternReader (Option (Nat × Option Nat)) := do
  if ← accept "?" then return some (0, some 1)
  if ← accept "*" then return some (0, none)
  if ← accept "+" then return some (1, none)
  match ← get with
  | ('{' :: r, s) =>
    match bounds.run (r, s) with
    | some (b, s) => set s; return some b
    -- A brace without bounds stands for itself.
    | none => return none
  | _ => return none

/-- The pattern with the repetition that follows it. -/
def repeatable (p : Pattern) : PatternReader Pattern := do
  space
  match ← repetition? with
  | none => return p
  | some (min, max) =>
    if !p.isRepeatable then failure
    space
    let greedy := !(← accept "?")
    let r := Pattern.repeated p min max (greedy != (← state).flags.lazy)
    if ← accept "+" then return .atomic r else return r

/-! ### Groups and alternatives -/

/-- Opens a group and gives its number. -/
def openGroup : PatternReader Nat := do
  update fun s => { s with groups := s.groups + 1 }
  return (← state).groups

/-- Opens a group under a name with two marks around it. -/
def openNamed (start stop : String) : PatternReader Nat := do
  let i ← openGroup
  let n ← name start stop
  update fun s => { s with names := (n, i) :: s.names }
  return i

/-- Closes a group. -/
def closeGroup (i : Nat) (p : Pattern) : PatternReader Pattern := do
  update fun s => { s with closed := (i, p.extent) :: s.closed }
  return .group i p

/-- Reads flags up to the sign behind them, and tells whether it is a colon. The flags start
    where there were `start` characters left. -/
def readFlags (start : Nat) : Nat → Bool → PatternReader Bool
  | 0, _ => failure
  | n + 1, value => do
    space
    let left := (← rest).length
    match ← peek? with
    | none => failure
    | some c =>
      skip
      -- A minus that comes first needs something behind it.
      let lone := !value && left + 1 = start
      if c = ')' then
        if left = start || lone then failure else return false
      else if c = ':' then
        if lone then failure else return true
      else if c = '-' then
        if value then readFlags start n false else failure
      else
        match (← state).flags.change? value c with
        | some f =>
          update fun s => { s with flags := f }
          readFlags start n value
        | none => failure

/-- How deep groups may nest. -/
def maxDepth : Nat := 63

/-- A condition: a reference asks whether its group has captured something. -/
def condition : Pattern → Pattern
  | .backref i .. => .isSet i
  | p => p

/-- The two ways to go on from a condition: the first alternative, and the others. -/
def branches : Pattern → Pattern × Pattern
  | .choice [p, q] => (p, q)
  | .choice (p :: l) => (p, .choice l)
  | p => (p, .empty)

mutual

/-- Reads alternatives. -/
def alternatives : Nat → Nat → PatternReader Pattern
  | 0, _ => failure
  | n + 1, depth => do
    let p ← branch n depth
    space
    if (← peek?) = some '|' then return .choice (p :: (← furtherAlternatives n depth))
    -- References by number are not allowed beside groups with names.
    let s ← state
    if s.numbered && !s.names.isEmpty then failure
    return p

/-- Reads the alternatives behind the first one. -/
def furtherAlternatives : Nat → Nat → PatternReader (List Pattern)
  | 0, _ => failure
  | n + 1, depth => do
    if ← accept "|" then
      let p ← branch n depth
      space
      return p :: (← furtherAlternatives n depth)
    else return []

/-- Reads pieces in a row. -/
def branch : Nat → Nat → PatternReader Pattern
  | 0, _ => failure
  | n + 1, depth => do return .inRow (← pieces n depth)

/-- Reads the pieces that stand in a row, as long as there are any. -/
def pieces : Nat → Nat → PatternReader (List Pattern)
  | 0, _ => failure
  | n + 1, depth => do
    let before := (← rest).length
    if before = 0 then return []
    let p ← piece n depth
    if (← rest).length = before then return []
    let l ← pieces n depth
    return if p.isEmpty then l else p :: l

/-- Reads a piece with its repetition. -/
def piece : Nat → Nat → PatternReader Pattern
  | 0, _ => failure
  | n + 1, depth => do repeatable (← atom n depth)

/-- Reads a piece without its repetition; nothing where no piece starts. -/
def atom : Nat → Nat → PatternReader Pattern
  | 0, _ => failure
  | n + 1, depth => do
    space
    let f := (← state).flags
    match ← peek? with
    | none => return .empty
    | some c =>
      match c with
      | '+' | '*' | '?' | '|' | ')' => return .empty
      | _ =>
        skip
        match c with
        | '.' => return .any f.dotAll
        | '^' => return .place (if f.lines then .lineStart else .textStart)
        | '$' => return .place (if f.lines then .lineEnd else .textEnd)
        | '(' => parenthesis n (depth + 1)
        | '[' => charClass
        | '\\' => escape false
        | c => literal c

/-- Reads what follows an opening parenthesis. -/
def parenthesis : Nat → Nat → PatternReader Pattern
  | 0, _ => failure
  | n + 1, depth => do
    if maxDepth < depth then failure
    space
    if ← accept "?=" then return .look false false (← enclosed n depth)
    else if ← accept "?!" then return .look false true (← enclosed n depth)
    else if ← accept "?<=" then return .look true false (← enclosed n depth)
    else if ← accept "?<!" then return .look true true (← enclosed n depth)
    else if ← accept "?>" then return .atomic (← enclosed n depth)
    else if ← accept "?P=" then namedBackref "" ")" false
    else if ← accept "?(" then conditional n depth
    else if (← rest).take 2 = ['?', '<'] then
      skip
      named n depth "<" ">"
    else if (← rest).take 2 = ['?', '\''] then
      skip
      named n depth "'" "'"
    else if (← rest).take 3 = ['?', 'P', '<'] then
      skip
      skip
      named n depth "<" ">"
    else if ← accept "?" then
      let before := (← state).flags
      let left := (← rest).length
      -- Flags before a parenthesis hold for what follows, those before a colon inside only.
      if ← readFlags left (left + 1) true then
        let p ← enclosed n depth
        update fun s => { s with flags := before }
        return p
      else return .empty
    else
      let i ← openGroup
      closeGroup i (← enclosed n depth)

/-- Reads a group with a name. -/
def named : Nat → Nat → String → String → PatternReader Pattern
  | 0, _, _, _ => failure
  | n + 1, depth, start, stop => do
    let i ← openNamed start stop
    closeGroup i (← enclosed n depth)

/-- Reads a condition behind its opening parenthesis, and the ways to go on from it. -/
def conditional : Nat → Nat → PatternReader Pattern
  | 0, _ => failure
  | n + 1, depth => do
    let c ←
      match ← peek? with
      | some '\'' => namedBackref "'" "')" true
      | some '<' => namedBackref "<" ">)" true
      | some c =>
        if c = '+' || c = '-' || Text.isDigit c then namedBackref "" ")" true
        else enclosed n depth
      | none => failure
    let before := (← rest).length
    let p ← alternatives n depth
    let isBackref := match c with
      | .backref .. => true
      | _ => false
    -- With nothing behind it a condition has to be a reference.
    if (← rest).length = before && !isBackref then failure
    expect ")"
    let (yes, no) := branches p
    if yes.isEmpty && no.isEmpty then return condition c
    return .cond (condition c) yes no

/-- Reads alternatives and the parenthesis that closes them. -/
def enclosed : Nat → Nat → PatternReader Pattern
  | 0, _ => failure
  | n + 1, depth => do
    let p ← alternatives n depth
    expect ")"
    return p

end

end PatternReader

/-- A pattern that was read. -/
structure ReadPattern where
  /-- The pattern. -/
  pattern : Pattern
  /-- The number of its groups. -/
  groups : Nat
  /-- The groups that it refers to. -/
  asked : List Nat
  deriving Repr

namespace Pattern

/-- Reads a whole pattern. -/
def read? (s : List Char) (flags : PatternFlags) : Option ReadPattern :=
  let start : PatternScan := ⟨flags, 0, [], [], [], false, Text.utf8Size s / 2⟩
  match (PatternReader.alternatives (8 * s.length + 8) 0).run (s, start) with
  | some (p, ([], scan)) =>
    if scan.asked.all fun i => 1 ≤ i && i ≤ scan.groups then
      some ⟨p, scan.groups, scan.asked⟩
    else none
  | _ => none

end Pattern

end XPathData
