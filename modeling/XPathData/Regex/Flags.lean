/-! # Flags

  Flags say how the characters of a pattern are meant. They hold for a whole pattern or for
  a part of it.
-/

namespace XPathData

/-- How the characters of a pattern are meant. -/
structure PatternFlags where
  /-- Case does not matter. -/
  ignoreCase : Bool
  /-- Anchors stand for the ends of lines. -/
  lines : Bool
  /-- A dot stands for line feeds too. -/
  dotAll : Bool
  /-- Repetitions are lazy unless marked otherwise. -/
  lazy : Bool
  /-- White space and comments are left out. -/
  spaced : Bool
  deriving DecidableEq, Repr

namespace PatternFlags

/-- No flag is set. -/
def off : PatternFlags := ⟨false, false, false, false, false⟩

/-- The flags with one of them set or cleared; none for a letter without a meaning. -/
def change? (f : PatternFlags) (value : Bool) : Char → Option PatternFlags
  | 'i' => some { f with ignoreCase := value }
  | 'm' => some { f with lines := value }
  | 's' => some { f with dotAll := value }
  | 'U' => some { f with lazy := value }
  | 'x' => some { f with spaced := value }
  | 'u' => if value then some f else none
  | _ => none

end PatternFlags

end XPathData
