import XPathData.Regex.Basic

/-! # A cache of regular expressions

  Compiled patterns are kept under their text and flags. A full cache gives up the
  one that was used least recently.
-/

namespace XPathData

/-- Compiled patterns, the most recently used one first. -/
structure RegexCache where
  /-- The greatest number of patterns that are kept. -/
  capacity : Nat
  /-- The patterns under their texts and flags. -/
  entries : List ((String × String) × Regex)
  /-- No more are kept than there may be. -/
  length_le : entries.length ≤ capacity

/-- A computation that compiles patterns and may fail. -/
abbrev Compiling := ExceptT Error (StateM RegexCache)

namespace RegexCache

/-- A cache without patterns. -/
def empty (capacity : Nat) : RegexCache := ⟨capacity, [], Nat.zero_le _⟩

/-- The number of patterns that are kept. -/
def size (c : RegexCache) : Nat := c.entries.length

/-- Puts a pattern first, and gives up the last one if there are too many. -/
def put (c : RegexCache) (key : String × String) (r : Regex) : RegexCache where
  capacity := c.capacity
  entries := ((key, r) :: c.entries.filter fun e => e.1 != key).take c.capacity
  length_le := Nat.le_trans (Nat.le_of_eq List.length_take) (Nat.min_le_left _ _)

/-- The pattern kept under a text and flags. -/
def find? (c : RegexCache) (key : String × String) : Option Regex := c.entries.lookup key

/-- A regular expression from the cache, or else compiled and kept. -/
def compile (pattern flags : String) : Compiling Regex := fun c =>
  match c.find? (pattern, flags) with
  | some r => (.ok r, c.put (pattern, flags) r)
  | none =>
    match Regex.compile pattern flags with
    | .ok r => (.ok r, c.put (pattern, flags) r)
    | .error e => (.error e, c)

/-- A pattern matches somewhere in a text. -/
def matchesText (pattern flags text : String) : Compiling Bool := do
  liftM ((← compile pattern flags).isMatch text.toList)

/-- Puts a replacement in place of the matches of a pattern. -/
def replace (pattern flags text replacement : String) : Compiling String := do
  liftM ((← compile pattern flags).replace text replacement)

/-- The pieces of a text between the matches of a pattern. -/
def tokenize (pattern flags text : String) : Compiling (List String) := do
  liftM ((← compile pattern flags).tokenize text)

end RegexCache

end XPathData
