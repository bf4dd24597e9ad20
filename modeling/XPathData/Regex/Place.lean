import XPathData.Unicode.CharClass

/-! # Places

  A condition on a place looks at the characters around it and takes none of them.
-/

namespace XPathData

open Unicode

/-- A condition on a place in a text. -/
inductive Place where
  /-- The start of the text. -/
  | textStart
  /-- The end of the text. -/
  | textEnd
  /-- The start of a line. -/
  | lineStart
  /-- The end of a line. -/
  | lineEnd
  /-- A word starts or ends. -/
  | wordBoundary
  /-- No word starts or ends. -/
  | noWordBoundary
  /-- A word starts. -/
  | wordStart
  /-- A word ends. -/
  | wordEnd
  deriving DecidableEq, Repr

namespace Place

/-- The character at a place belongs to a word. -/
def isWordAt (text : Array Char) (i : Nat) : Bool := text[i]?.any CharSet.word.has

/-- The character before a place belongs to a word. -/
def isWordBefore (text : Array Char) (i : Nat) : Bool := 0 < i && isWordAt text (i - 1)

/-- The condition holds at a place of a text. -/
def holds (text : Array Char) (i : Nat) : Place → Bool
  | textStart => i == 0
  | textEnd => i == text.size
  | lineStart => i == 0 || text[i - 1]? == some '\n'
  | lineEnd => i == text.size || text[i]? == some '\n'
  | wordBoundary => isWordBefore text i != isWordAt text i
  | noWordBoundary => isWordBefore text i == isWordAt text i
  | wordStart => !isWordBefore text i && isWordAt text i
  | wordEnd => isWordBefore text i && !isWordAt text i

/-- The condition looks for words. -/
def isOnWords : Place → Bool
  | wordBoundary | noWordBoundary | wordStart | wordEnd => true
  | _ => false

end Place

end XPathData
