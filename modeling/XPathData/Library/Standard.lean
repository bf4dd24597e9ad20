import XPathData.Function.Table
import XPathData.Library.Cardinality
import XPathData.Library.Matching
import XPathData.Library.Sum
import XPathData.Library.Value

/-! # The standard functions

  The table of the standard functions, which are all in one namespace, and calls by
  name.
-/

namespace XPathData.Library

/-! ### Functions with their numbers of arguments -/

/-- A function, by the number of arguments that it takes. -/
inductive Signature where
  | one (f : List Item → Call (List Item))
  | oneOrTwo (f : List Item → Option (List Item) → Call (List Item))
  | two (f : List Item → List Item → Call (List Item))
  | twoOrThree (f : List Item → List Item → Option (List Item) → Call (List Item))
  | three (f : List Item → List Item → List Item → Call (List Item))
  | threeOrFour (f : List Item → List Item → List Item → Option (List Item) → Call (List Item))

namespace Signature

/-- The least and the greatest number of arguments. -/
def range : Signature → Nat × Nat
  | one _ => (1, 1)
  | oneOrTwo _ => (1, 2)
  | two _ => (2, 2)
  | twoOrThree _ => (2, 3)
  | three _ => (3, 3)
  | threeOrFour _ => (3, 4)

/-- The call with some arguments; none if their number does not fit. -/
def on? : Signature → List (List Item) → Option (Call (List Item))
  | one f, [a] => some (f a)
  | oneOrTwo f, [a] => some (f a none)
  | oneOrTwo f, [a, b] => some (f a (some b))
  | two f, [a, b] => some (f a b)
  | twoOrThree f, [a, b] => some (f a b none)
  | twoOrThree f, [a, b, c] => some (f a b (some c))
  | three f, [a, b, c] => some (f a b c)
  | threeOrFour f, [a, b, c] => some (f a b c none)
  | threeOrFour f, [a, b, c, d] => some (f a b c (some d))
  | _, _ => none

/-- The function as an overload. -/
def overload (s : Signature) : Overload Signature := ⟨s.range.1, some s.range.2, s⟩

end Signature

/-! ### The table -/

/-- The standard functions under their local names. -/
def functions : List (String × Signature) :=
  [("empty", .one isEmpty),
   ("exists", .one exists?),
   ("count", .one count),
   ("exactly-one", .one exactlyOne),
   ("zero-or-one", .one zeroOrOne),
   ("one-or-more", .one oneOrMore),
   ("distinct-values", .one distinctValues),
   ("index-of", .two indexOf),
   ("reverse", .one reverse),
   ("subsequence", .twoOrThree subsequence),
   ("insert-before", .three insertBefore),
   ("remove", .two remove),
   ("data", .one data),
   ("boolean", .one boolean),
   ("not", .one not),
   ("min", .oneOrTwo least),
   ("max", .oneOrTwo greatest),
   ("sum", .oneOrTwo sum),
   ("avg", .one average),
   ("matches", .twoOrThree matchesPattern),
   ("replace", .threeOrFour replace),
   ("tokenize", .twoOrThree tokenize)]

/-- The table of the standard functions. -/
def standard : FunctionTable Signature :=
  functions.foldl (fun t f => t.register (.function f.1) f.2.overload) .empty

/-- Calls the function of a name. -/
def call (name : ExpandedName) (args : List (List Item)) (defaultNamespace : Option String) :
    Call (List Item) :=
  match standard.resolve name args.length defaultNamespace with
  | .error f => Call.fail (f.error args.length)
  | .ok s =>
    (s.on? args).getD
      (Call.fail ((CallFault.arity name []).error args.length))

end XPathData.Library
