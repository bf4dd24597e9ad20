import XPathData.Library.Argument
import XPathData.Regex.Basic

/-! # Functions on patterns

  The arguments are texts; flags may be left out.
-/

namespace XPathData.Library

open Argument

/-- A text as an item. -/
def textItem (s : String) : Item := .atomic (.str s)

/-- A pattern matches somewhere in a text. -/
def matchesPattern (input pattern : List Item) (flags : Option (List Item)) :
    Call (List Item) := do
  let s ← string input
  let p ← string pattern
  let r ← liftM (Regex.compile p (← stringOr "" flags))
  return truthResult (← liftM (r.isMatch s.toList))

/-- A text with a replacement in place of the matches of a pattern. -/
def replace (input pattern replacement : List Item) (flags : Option (List Item)) :
    Call (List Item) := do
  let s ← string input
  let p ← string pattern
  let w ← string replacement
  let r ← liftM (Regex.compile p (← stringOr "" flags))
  return [textItem (← liftM (r.replace s w))]

/-- The pieces of a text between the matches of a pattern. -/
def tokenize (input pattern : List Item) (flags : Option (List Item)) : Call (List Item) := do
  let s ← string input
  let p ← string pattern
  let r ← liftM (Regex.compile p (← stringOr "" flags))
  return (← liftM (r.tokenize s)).map textItem

end XPathData.Library
