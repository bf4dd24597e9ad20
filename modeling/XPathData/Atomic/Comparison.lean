import XPathData.Atomic.Arithmetic

/-! # Comparison of values

  Two values are compared as numbers, as texts, as points in time or as spans of
  it; values of some types can only be equal or not. Untyped values count as
  strings. A pair of types without a common ground has no comparison operator.
-/

namespace XPathData

/-! ### Operators -/

/-- The comparison operators. -/
inductive ComparisonOp where
  | eq
  | ne
  | lt
  | le
  | gt
  | ge
  deriving DecidableEq, Repr

namespace ComparisonOp

/-- The keyword of an operator. -/
def symbol : ComparisonOp → String
  | eq => "eq"
  | ne => "ne"
  | lt => "lt"
  | le => "le"
  | gt => "gt"
  | ge => "ge"

/-- The operator with its operands exchanged. -/
def converse : ComparisonOp → ComparisonOp
  | lt => gt
  | le => ge
  | gt => lt
  | ge => le
  | op => op

/-- The operator only asks for equality. -/
def isEquality : ComparisonOp → Bool
  | eq | ne => true
  | _ => false

/-- The operator holds for operands in the given order; without an order only `ne` does. -/
def holds : ComparisonOp → Option Ordering → Bool
  | ne, none => true
  | _, none => false
  | eq, some o => o == .eq
  | ne, some o => o != .eq
  | lt, some o => o == .lt
  | le, some o => o != .gt
  | gt, some o => o == .gt
  | ge, some o => o != .lt

end ComparisonOp

/-! ### Relating two values -/

/-- How two values of comparable types relate. -/
inductive Relation where
  /-- They have an order, unless one of them is NaN. -/
  | ordered (order : Option Ordering)
  /-- They are equal or not. -/
  | equality (equal : Bool)
  deriving DecidableEq, Repr

/-- Texts are compared character by character. -/
def compareText (a b : String) : Ordering := compareOfLessAndEq a b

/-- The months and seconds of a duration. -/
def Atomic.durationParts? : Atomic → Option (Int × Decimal)
  | .duration m s => some (m.val, s.normalize)
  | .yearMonthDuration m => some (m.val, .zero)
  | .dayTimeDuration s => some (0, s.normalize)
  | _ => none

/-- The start of a fragment, with the fields that it lacks taken from the year 1972;
    none for a year beyond the calendar. -/
def Fragment.start? : Fragment → Option DateTime
  | year y => (Date.ofFields? y 1 1).map .startOf
  | yearMonth y m => (Date.ofFields? y m 1).map .startOf
  | month m => (Date.ofFields? 1972 m 1).map .startOf
  | monthDay m d => (Date.ofFields? 1972 m d).map .startOf
  | day d => (Date.ofFields? 1972 12 d).map .startOf

namespace Atomic

/-- The instant that a fragment starts at, if its year lies in the calendar. -/
def fragmentInstant (f : Fragment) (zone : Option Offset) (ctx : ValueContext) :
    Outcome (Option DateTime) :=
  match f.start? with
  | some t => (toUtc t zone ctx).map some
  | none => .ok none

/-- Orders two local date-times by their instants. -/
def compareInstants (s t : DateTime) (sZone tZone : Option Offset) (ctx : ValueContext) :
    Outcome Relation := do
  let s ← toUtc s sZone ctx
  let t ← toUtc t tZone ctx
  return .ordered (some (compare s.nanos t.nanos))

/-- Relates two dates or times of one type, or two fragments of one kind. -/
def relateTemporal? (a b : Atomic) (ctx : ValueContext) : Option (Outcome Relation) :=
  match a, b with
  | dateTime s sZone, dateTime t tZone => some (compareInstants s t sZone tZone ctx)
  | date d dZone, date e eZone =>
    some (compareInstants (.startOf d) (.startOf e) dZone eZone ctx)
  | time c cZone, time d dZone =>
    some (compareInstants (.anchored c) (.anchored d) cZone dZone ctx)
  | fragment f fZone, fragment g gZone =>
    if f.kind = g.kind then some do
      let x ← fragmentInstant f fZone ctx
      let y ← fragmentInstant g gZone ctx
      return .equality (x == y)
    else none
  | _, _ => none

/-- Relates two durations; months and seconds alone have an order, but not with one
    another. -/
def relateDurations? (a b : Atomic) : Option Relation :=
  match a, b with
  | yearMonthDuration m, yearMonthDuration n => some (.ordered (some (compare m.val n.val)))
  | dayTimeDuration s, dayTimeDuration t => some (.ordered (some (s.compare t)))
  -- Months have no fixed length, so these two do not compare even when both are zero.
  | yearMonthDuration _, dayTimeDuration _ | dayTimeDuration _, yearMonthDuration _ => none
  | _, _ =>
    match a.durationParts?, b.durationParts? with
    | some p, some q => some (.equality (p.1 == q.1 && p.2.same q.2))
    | _, _ => none

/-- Relates two values of the remaining types. -/
def relateOthers? (a b : Atomic) : Option Relation :=
  match a, b with
  | boolean x, boolean y => some (.ordered (some (compare x y)))
  | qName p, qName q => some (.equality (p.uri == q.uri && p.localName == q.localName))
  | notationName s, notationName t => some (.equality (s == t))
  | hexBinary s, hexBinary t =>
    some (.equality (Text.Hex.decode? s.toList == Text.Hex.decode? t.toList))
  | base64Binary s, base64Binary t => some (.equality (s == t))
  | _, _ => none

/-- How two values relate; none if their types are not comparable. -/
def relate? (a b : Atomic) (ctx : ValueContext) : Option (Outcome Relation) :=
  match Number.ofAtomic? a, Number.ofAtomic? b with
  | some x, some y => some (.ok (.ordered (x.compare? y)))
  | _, _ =>
    match a.text?, b.text? with
    | some s, some t => some (.ok (.ordered (some (compareText s t))))
    | _, _ =>
      (relateTemporal? a b ctx).or (((relateDurations? a b).or (relateOthers? a b)).map .ok)

/-! ### Value comparison -/

/-- No comparison operator of this name for the two values. -/
def notComparable (op : ComparisonOp) (a b : Atomic) : Failure :=
  .error (.undefinedOperator op.symbol a.type.text b.type.text)

/-- The operator decided by a relation, if it suits it. -/
def decideOp (op : ComparisonOp) : Relation → Option Bool
  | .ordered o => some (op.holds o)
  | .equality e => if op.isEquality then some ((op == .eq) == e) else none

/-- An untyped value as a string, others as they are. -/
def untypedAsString : Atomic → Atomic
  | untyped s => str s
  | a => a

/-- The comparison of two values by an operator. -/
def compareBy (op : ComparisonOp) (a b : Atomic) (ctx : ValueContext) : Outcome Bool :=
  let a := untypedAsString a
  let b := untypedAsString b
  match relate? a b ctx with
  | none => .error (notComparable op a b)
  | some r =>
    r.bind fun r => match decideOp op r with
      | some holds => .ok holds
      | none => .error (notComparable op a b)

/-- The order of two values; none if one is NaN, an error without a common order. -/
def orderOf (a b : Atomic) (ctx : ValueContext) : Outcome (Option Ordering) :=
  match relate? a b ctx with
  | none => .error (notComparable .lt a b)
  | some r =>
    r.bind fun r => match r with
      | .ordered o => .ok o
      | .equality _ => .error (notComparable .lt a b)

/-! ### General comparison of two values -/

/-- An untyped operand in the type that suits the other one: a double beside a
    number, a string beside a string, and else the type of the other operand. -/
def castBeside (text : String) (other : Atomic) (ctx : ValueContext) : Except Error Atomic :=
  if other.isNumeric then (orThrow (notANumber text) (readDouble? text)).map double
  else if other.type = .untypedAtomic || other.type.isString then .ok (str text)
  else (untyped text).cast other.type ctx

/-- Brings two operands of a general comparison to types that suit each other. -/
def generalOperands (a b : Atomic) (ctx : ValueContext) : Except Error (Atomic × Atomic) :=
  match a, b with
  | untyped s, untyped t => .ok (str s, str t)
  | untyped s, b => (castBeside s b ctx).map (·, b)
  | a, untyped t => (castBeside t a ctx).map (a, ·)
  | a, b => .ok (a, b)

/-- The comparison of two operands of a general comparison. -/
def generalPair (op : ComparisonOp) (a b : Atomic) (ctx : ValueContext) : Outcome Bool := do
  let (a, b) ← generalOperands a b ctx
  compareBy op a b ctx

end Atomic

end XPathData
