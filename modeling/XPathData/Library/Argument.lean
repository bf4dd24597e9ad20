import XPathData.Sequence.Atomize

/-! # Arguments

  Functions take sequences of items that are there already. An argument that stands
  for a single value is atomized and must have at most one.
-/

namespace XPathData

/-- What functions depend on beside their arguments. -/
structure CallContext where
  /-- The trees that nodes belong to. -/
  forest : Forest
  /-- What operations on values depend on. -/
  values : ValueContext

/-- A call of a function, which may fail. -/
abbrev Call := ReaderT CallContext (Except Failure)

namespace Call

/-- The context of value operations. -/
def values : Call ValueContext := do return (← read).values

/-- Stops with an error. -/
def fail {α : Type} (e : Error) : Call α := throw (.error e)

end Call

namespace Argument

/-- The result of one value. -/
def result (a : Atomic) : List Item := [.atomic a]

/-- The result of a truth value. -/
def truthResult (b : Bool) : List Item := result (.boolean b)

/-- The atomic values of an argument. -/
def atoms (l : List Item) : Call (List Atomic) := do liftM (atomizeAll (← read).forest l)

/-- The only atomic value of an argument, if it has one. -/
def value? (l : List Item) : Call (Option Atomic) := do liftM (singleValue? (← read).forest l)

/-- The text of an argument; no value is the empty text. -/
def string (l : List Item) : Call String := do return ((← value? l).map Atomic.text).getD ""

/-- The text of an argument that may be left out. -/
def stringOr (default : String) : Option (List Item) → Call String
  | some l => string l
  | none => return default

/-- An argument as a double; it must be a number or untyped. -/
def number (l : List Item) : Call Double := do
  match ← value? l with
  | none =>
    Call.fail (.cardinality .typeError "expected a numeric argument, got an empty sequence")
  | some (.untyped s) => liftM (Atomic.orThrow (Atomic.notANumber s) (Atomic.readDouble? s))
  | some a =>
    match Number.ofAtomic? a with
    | some n => return n.toDouble
    | none => Call.fail (.ofCode .typeError ("expected a numeric argument, got " ++ a.type.text))

/-- An untyped value as an integer, others as they are. -/
def untypedAsInteger : Atomic → Except Error Atomic
  | .untyped s => (Atomic.untyped s).cast (.integer .integer) .standard
  | a => .ok a

/-- An argument as an integer; it must be one or untyped. -/
def integer (l : List Item) : Call Int := do
  match ← value? l with
  | none =>
    Call.fail (.cardinality .typeError "expected an xs:integer argument, got an empty sequence")
  | some a =>
    let a ← liftM (untypedAsInteger a)
    match a.integer? with
    | some n => return n
    | none =>
      Call.fail (.ofCode .typeError ("expected an xs:integer argument, got " ++ a.type.text))

/-- Checks a collation that may be left out; only that of code points is supported. -/
def collation : Option (List Item) → Call Unit
  | none => return
  | some l => do
    let uri ← string l
    if uri ≠ Namespace.codepointCollation then
      Call.fail (.ofCode .unsupportedCollation ("unsupported collation '" ++ uri ++ "'"))

end Argument

end XPathData
