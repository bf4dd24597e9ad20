import XPathData.Regex.Replacement
import XPathData.Regex.Search

/-! # Regular expressions

  A regular expression is a pattern that was read under some flags. It divides a
  text into its matches and the pieces between them: replacing puts other text in
  place of the matches, and tokenizing keeps the pieces.
-/

namespace XPathData

/-! ### Compiling -/

/-- A pattern that is ready for use. -/
structure Regex where
  /-- What finds its matches. -/
  engine : Engine
  /-- The number of its groups. -/
  groups : Nat
  deriving Repr

namespace Regex

/-- A character that the flag for spacing leaves out. -/
def isSpacing (c : Char) : Bool := c = ' ' || c = '\t' || c = '\n' || c = '\r'

/-- The pattern text and the flags with one more flag; none if there is no such flag. -/
def applyFlag? (s : List Char × PatternFlags) : Char → Option (List Char × PatternFlags)
  | 'i' => some (s.1, { s.2 with ignoreCase := true })
  | 'm' => some (s.1, { s.2 with lines := true })
  | 's' => some (s.1, { s.2 with dotAll := true })
  | 'x' => some (s.1.filter (!isSpacing ·), s.2)
  | _ => none

/-- The pattern text and the flags after all flags; the first unknown flag is an error. -/
def applyFlags (s : List Char × PatternFlags) :
    List Char → Except Error (List Char × PatternFlags)
  | [] => .ok s
  | c :: flags =>
    match applyFlag? s c with
    | some s => applyFlags s flags
    | none => .error (.ofCode .invalidFlags ("unsupported regex flag: " ++ String.singleton c))

/-- The regular expression of a pattern under some flags. -/
def compile (pattern flags : String) : Except Error Regex := do
  let (s, f) ← applyFlags (pattern.toList, .off) flags.toList
  match (Pattern.read? s f).bind (Engine.ofPattern? · f) with
  | some (engine, groups) => return ⟨engine, groups⟩
  | none => throw (.ofCode .invalidPattern ("invalid regex pattern '" ++ pattern ++ "'"))

/-! ### Dividing a text -/

/-- What a search has found; a search that has come to no end is an error. -/
def orGiveUp {α : Type} : Except SearchFault α → Except Error α
  | .ok a => .ok a
  | .error .exhausted => .error (.ofCode .invalidPattern "regex evaluation error")

/-- The regular expression matches somewhere. -/
def isMatch (r : Regex) (text : List Char) : Except Error Bool := do
  return (← orGiveUp (r.engine.find? text.toArray 0 false)).isSome

/-- The characters between two places. -/
def slice (text : List Char) (first last : Nat) : List Char := (text.drop first).take (last - first)

/-- The pieces of a text between matches, from a place on. -/
def pieces (text : List Char) (start : Nat) : List Match → List (List Char)
  | [] => [text.drop start]
  | m :: l => slice text start m.first :: pieces text m.last l

/-- A text from a place on, with other text in place of the matches. -/
def substitute (text : List Char) (f : Match → List Char) (start : Nat) :
    List Match → List Char
  | [] => text.drop start
  | m :: l => slice text start m.first ++ f m ++ substitute text f m.last l

/-- What a group of a match has captured; nothing if it took no part. -/
def captured (text : List Char) (m : Match) (i : Nat) : List Char :=
  match m.group? i with
  | some (first, last) => slice text first last
  | none => []

/-! ### Operations -/

/-- Refuses a regular expression that matches the empty text. -/
def refuseEmpty (r : Regex) (operation : String) : Except Error Unit := do
  if ← r.isMatch [] then
    throw (.ofCode .matchesEmpty ("pattern in " ++ operation ++ " matches a zero-length string"))

/-- Puts a replacement in place of the matches. -/
def replace (r : Regex) (text replacement : String) : Except Error String := do
  r.refuseEmpty "fn:replace"
  match Replacement.read r.groups replacement.toList with
  | .error f => throw f.error
  | .ok pieces =>
    let s := text.toList
    let found ← orGiveUp (r.engine.allMatches s.toArray false)
    return String.ofList (substitute s (fun m => pieces.expand (captured s m)) 0 found)

/-- The pieces of a text between the matches; an empty text has none. -/
def tokenize (r : Regex) (text : String) : Except Error (List String) := do
  r.refuseEmpty "fn:tokenize"
  let s := text.toList
  if s.isEmpty then return []
  return (pieces s 0 (← orGiveUp (r.engine.allMatches s.toArray true))).map String.ofList

end Regex

end XPathData
