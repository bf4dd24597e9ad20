import XPathData.Unicode.Alphabetic
import XPathData.Unicode.Category
import XPathData.Unicode.CharSet

/-! # Classes that patterns name

  Some sets of characters have a letter of their own in patterns, and those of ASCII have
  names between colons.
-/

namespace XPathData.Unicode.CharSet

/-- Decimal digits. -/
def digit : CharSet := ofIntervals Category.decimalNumber

/-- White space. -/
def space : CharSet :=
  ofIntervals [(0x9, 0xD), (0x20, 0x20), (0x85, 0x85), (0xA0, 0xA0), (0x1680, 0x1680),
    (0x2000, 0x200A), (0x2028, 0x2029), (0x202F, 0x202F), (0x205F, 0x205F), (0x3000, 0x3000)]

/-- Alphabetic characters, marks, digits, connecting punctuation and joiners. -/
def word : CharSet :=
  ofIntervals (alphabetic ++ Category.nonspacingMark ++ Category.spacingMark ++
    Category.enclosingMark ++ Category.decimalNumber ++ Category.connectorPunctuation ++
    [(0x200C, 0x200D)])

/-- Hexadecimal digits. -/
def hexDigit : CharSet := ofIntervals [(0x30, 0x39), (0x41, 0x46), (0x61, 0x66)]

/-- Any character but the line feed. -/
def notLineFeed : CharSet := compl (single '\n')

/-- The characters of a class of ASCII. -/
def ascii? : String → Option CharSet
  | "alnum" => some (ofIntervals [(0x30, 0x39), (0x41, 0x5A), (0x61, 0x7A)])
  | "alpha" => some (ofIntervals [(0x41, 0x5A), (0x61, 0x7A)])
  | "ascii" => some (ofIntervals [(0, 0x7F)])
  | "blank" => some (ofIntervals [(0x9, 0x9), (0x20, 0x20)])
  | "cntrl" => some (ofIntervals [(0, 0x1F), (0x7F, 0x7F)])
  | "digit" => some (ofIntervals [(0x30, 0x39)])
  | "graph" => some (ofIntervals [(0x21, 0x7E)])
  | "lower" => some (ofIntervals [(0x61, 0x7A)])
  | "print" => some (ofIntervals [(0x20, 0x7E)])
  | "punct" => some (ofIntervals [(0x21, 0x2F), (0x3A, 0x40), (0x5B, 0x60), (0x7B, 0x7E)])
  | "space" => some (ofIntervals [(0x9, 0xD), (0x20, 0x20)])
  | "upper" => some (ofIntervals [(0x41, 0x5A)])
  | "word" => some (ofIntervals [(0x30, 0x39), (0x41, 0x5A), (0x5F, 0x5F), (0x61, 0x7A)])
  | "xdigit" => some (ofIntervals [(0x30, 0x39), (0x41, 0x46), (0x61, 0x66)])
  | _ => none

end XPathData.Unicode.CharSet
