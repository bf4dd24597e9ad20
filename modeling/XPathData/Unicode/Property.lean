import XPathData.Text.Split
import XPathData.Unicode.Age
import XPathData.Unicode.Break
import XPathData.Unicode.Script

/-! # Properties by name

  Patterns name sets of characters by general category, by script, or by a property
  that a character has or has not, and by the values of some other properties. Case,
  spaces, hyphens, underscores and all that is not ASCII do not matter in names, nor does
  an `is` at the very start.
-/

namespace XPathData.Unicode.Property

open Category

/-! ### Names -/

/-- A name without an `is` at the start. -/
def withoutIs : List Char → List Char
  | 'i' :: 's' :: s | 'i' :: 'S' :: s | 'I' :: 's' :: s | 'I' :: 'S' :: s => s
  | s => s

/-- What counts in a name, in lower case. -/
def plainName (s : List Char) : String :=
  let counts (c : Char) : Bool := c != ' ' && c != '_' && c != '-' && c.toNat < 0x80
  let n := String.ofList (((withoutIs s).filter counts).map Char.toLower)
  -- The name of the comments in the standard starts with `is` and is not another name.
  if n = "c" && (withoutIs s).length < s.length then "isc" else n

/-! ### General categories -/

/-- The characters with a category of their own. -/
def assigned : Intervals :=
  uppercaseLetter ++ lowercaseLetter ++ titlecaseLetter ++ modifierLetter ++ otherLetter ++
    nonspacingMark ++ spacingMark ++ enclosingMark ++ decimalNumber ++ letterNumber ++
    otherNumber ++ connectorPunctuation ++ dashPunctuation ++ openPunctuation ++
    closePunctuation ++ initialPunctuation ++ finalPunctuation ++ otherPunctuation ++
    mathSymbol ++ currencySymbol ++ modifierSymbol ++ otherSymbol ++ spaceSeparator ++
    lineSeparator ++ paragraphSeparator ++ control ++ format ++ privateUse

/-- The set of a general category or of a group of them. -/
def category? : String → Option CharSet
  | "l" | "letter" =>
    some (.ofIntervals (uppercaseLetter ++ lowercaseLetter ++ titlecaseLetter ++ modifierLetter ++
      otherLetter))
  | "lc" | "casedletter" =>
    some (.ofIntervals (uppercaseLetter ++ lowercaseLetter ++ titlecaseLetter))
  | "lu" | "uppercaseletter" => some (.ofIntervals uppercaseLetter)
  | "ll" | "lowercaseletter" => some (.ofIntervals lowercaseLetter)
  | "lt" | "titlecaseletter" => some (.ofIntervals titlecaseLetter)
  | "lm" | "modifierletter" => some (.ofIntervals modifierLetter)
  | "lo" | "otherletter" => some (.ofIntervals otherLetter)
  | "m" | "mark" | "combiningmark" =>
    some (.ofIntervals (nonspacingMark ++ spacingMark ++ enclosingMark))
  | "mn" | "nonspacingmark" => some (.ofIntervals nonspacingMark)
  | "mc" | "spacingmark" => some (.ofIntervals spacingMark)
  | "me" | "enclosingmark" => some (.ofIntervals enclosingMark)
  | "n" | "number" => some (.ofIntervals (decimalNumber ++ letterNumber ++ otherNumber))
  | "nd" | "decimalnumber" | "digit" => some (.ofIntervals decimalNumber)
  | "nl" | "letternumber" => some (.ofIntervals letterNumber)
  | "no" | "othernumber" => some (.ofIntervals otherNumber)
  | "p" | "punctuation" | "punct" =>
    some (.ofIntervals (connectorPunctuation ++ dashPunctuation ++ openPunctuation ++
      closePunctuation ++ initialPunctuation ++ finalPunctuation ++ otherPunctuation))
  | "pc" | "connectorpunctuation" => some (.ofIntervals connectorPunctuation)
  | "pd" | "dashpunctuation" => some (.ofIntervals dashPunctuation)
  | "ps" | "openpunctuation" => some (.ofIntervals openPunctuation)
  | "pe" | "closepunctuation" => some (.ofIntervals closePunctuation)
  | "pi" | "initialpunctuation" => some (.ofIntervals initialPunctuation)
  | "pf" | "finalpunctuation" => some (.ofIntervals finalPunctuation)
  | "po" | "otherpunctuation" => some (.ofIntervals otherPunctuation)
  | "s" | "symbol" =>
    some (.ofIntervals (mathSymbol ++ currencySymbol ++ modifierSymbol ++ otherSymbol))
  | "sm" | "mathsymbol" => some (.ofIntervals mathSymbol)
  | "sc" | "currencysymbol" => some (.ofIntervals currencySymbol)
  | "sk" | "modifiersymbol" => some (.ofIntervals modifierSymbol)
  | "so" | "othersymbol" => some (.ofIntervals otherSymbol)
  | "z" | "separator" =>
    some (.ofIntervals (spaceSeparator ++ lineSeparator ++ paragraphSeparator))
  | "zs" | "spaceseparator" => some (.ofIntervals spaceSeparator)
  | "zl" | "lineseparator" => some (.ofIntervals lineSeparator)
  | "zp" | "paragraphseparator" => some (.ofIntervals paragraphSeparator)
  | "c" | "other" =>
    some ((CharSet.ofIntervals (control ++ format ++ privateUse)).union
      (CharSet.ofIntervals assigned).compl)
  | "cc" | "control" | "cntrl" => some (.ofIntervals control)
  | "cf" | "format" => some (.ofIntervals format)
  | "co" | "privateuse" => some (.ofIntervals privateUse)
  | "cn" | "unassigned" => some (CharSet.ofIntervals assigned).compl
  | "any" => some .all
  | "assigned" => some (.ofIntervals assigned)
  | "ascii" => some (.ofIntervals [(0, 0x7F)])
  | _ => none

/-! ### Look-up -/

/-- The set that a name stands for. -/
def named? (name : List Char) : Option CharSet :=
  let n := plainName name
  ((BinaryProperty.named? n).or (category? n)).or (Script.named? n)

/-- The set of a value of one of the properties that have values. -/
def valued? (property value : List Char) : Option CharSet :=
  let v := plainName value
  match plainName property with
  | "gc" | "generalcategory" => category? v
  | "sc" | "script" => Script.named? v
  | "scx" | "scriptextensions" => Script.extended? v
  | "age" => Age.named? v
  | "gcb" | "graphemeclusterbreak" => Break.unit? v
  | "wb" | "wordbreak" => Break.word? v
  | "sb" | "sentencebreak" => Break.sentence? v
  | _ => none

/-- The parts around `!=`, where it occurs first. -/
def splitUnequal : List Char → Option (List Char × List Char)
  | '!' :: '=' :: s => some ([], s)
  | [] => none
  | c :: s => (splitUnequal s).map fun (before, after) => (c :: before, after)

/-- The set that stands between the braces of a property. Every sign between a property and
    its value means that the value is the one wanted. -/
def braced? (s : List Char) : Option CharSet :=
  match ((splitUnequal s).or (Text.splitFirst ':' s)).or (Text.splitFirst '=' s) with
  | some (p, v) => valued? p v
  | none => named? s

end XPathData.Unicode.Property
