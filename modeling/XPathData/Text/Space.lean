import XPathData.Text.Split

/-! # White space

  Schema text knows four white space characters. Binary text ignores the five of
  ASCII, and date and time text is trimmed of the Unicode ones.
-/

namespace XPathData.Text

/-! ### Classes -/

/-- Space, tab, line feed and carriage return. -/
def isXmlSpace (c : Char) : Bool := c == ' ' || c == '\t' || c == '\n' || c == '\r'

/-- The four and the form feed. -/
def isAsciiSpace (c : Char) : Bool := isXmlSpace c || c == '\x0c'

/-- The characters with the Unicode property of white space. -/
def isUnicodeSpace (c : Char) : Bool :=
  let n := c.toNat
  (0x9 ≤ n && n ≤ 0xD) || n == 0x20 || n == 0x85 || n == 0xA0 || n == 0x1680 ||
    (0x2000 ≤ n && n ≤ 0x200A) || n == 0x2028 || n == 0x2029 || n == 0x202F || n == 0x205F ||
    n == 0x3000

/-! ### Normal forms -/

/-- Without schema white space at both ends. -/
def trimXml (s : List Char) : List Char := trim isXmlSpace s

/-- Every white space character becomes a space. -/
def replaceSpace (s : List Char) : List Char := s.map fun c => if isXmlSpace c then ' ' else c

/-- The runs of characters between white space. -/
def words : List Char → List (List Char)
  | [] => []
  | c :: rest =>
    if isXmlSpace c then words rest
    else match rest, words rest with
      | d :: _, w :: ws => if isXmlSpace d then [c] :: w :: ws else (c :: w) :: ws
      | _, ws => [c] :: ws

/-- White space at both ends is left out, each run in between becomes one space. -/
def collapseSpace (s : List Char) : List Char := [' '].intercalate (words s)

end XPathData.Text
