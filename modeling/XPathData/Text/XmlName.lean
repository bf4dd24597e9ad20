import XPathData.Text.Split
import XPathData.Unicode.Alphabetic
import XPathData.Unicode.Category

/-! # Lexical forms of names

  Names, name tokens and language tags are told from other text by the characters
  they consist of. A colon belongs to names, but not to names without colons.
-/

namespace XPathData.Text

/-! ### Characters of names -/

/-- A character that a name can start with. -/
def isNameStart (colon : Bool) (c : Char) : Bool :=
  (colon && c == ':') || c == '_' || Unicode.isAlphabetic c

/-- A character that a name can go on with. -/
def isNameChar (colon : Bool) (c : Char) : Bool :=
  isNameStart colon c || Unicode.isNumber c || c == '-' || c == '.' || c == '·'

/-! ### Names -/

/-- A name, with or without colons in it. -/
def isName (colon : Bool) : List Char → Bool
  | [] => false
  | c :: rest => isNameStart colon c && rest.all (isNameChar colon)

/-- A name without colons. -/
def isNCName (s : List Char) : Bool := isName false s

/-- Characters of names, at least one. -/
def isNameToken (s : List Char) : Bool := !s.isEmpty && s.all (isNameChar true)

/-- The prefix and the local part of a name with at most one colon, both without
    colons themselves. -/
def readQName? (s : List Char) : Option (Option (List Char) × List Char) :=
  match splitFirst ':' s with
  | some (p, l) => if isNCName p && isNCName l then some (some p, l) else none
  | none => if isNCName s then some (none, s) else none

/-! ### Language tags -/

/-- An ASCII letter. -/
def isAsciiLetter (c : Char) : Bool := ('a' ≤ c && c ≤ 'z') || ('A' ≤ c && c ≤ 'Z')

/-- From one to eight characters of a class. -/
def isSubtag (allowed : Char → Bool) (s : List Char) : Bool :=
  1 ≤ s.length && s.length ≤ 8 && s.all allowed

/-- Up to eight letters, then up to eight letters or digits after each hyphen. -/
def isLanguage (s : List Char) : Bool :=
  match splitAll '-' s with
  | [] => false
  | first :: others =>
    isSubtag isAsciiLetter first &&
      others.all (isSubtag fun c => isAsciiLetter c || ('0' ≤ c && c ≤ '9'))

end XPathData.Text
