import XPathData.Atomic.Comparison

/-! # Equality keys

  A key stands for all values that are equal to one another, so that duplicates
  are found by comparing keys. All NaN values share one key.
-/

namespace XPathData

/-- The key of a value. -/
inductive EqualityKey where
  /-- No number. -/
  | nan
  /-- A number that a double holds exactly; zero without its sign. -/
  | number (x : Double)
  /-- A number that no double holds exactly. -/
  | decimal (d : Decimal)
  | boolean (b : Bool)
  /-- The text of a string, an untyped value or a URI. -/
  | string (s : String)
  /-- A name without its prefix. -/
  | qName (uri : Option String) (localName : String)
  | notationName (s : String)
  /-- A point in time, brought to UTC. -/
  | instant (type : AtomicType) (t : DateTime)
  /-- Months and seconds, under the kind of duration that they can equal. -/
  | duration (type : AtomicType) (months : Int) (seconds : Decimal)
  /-- The bytes of a binary value. -/
  | binary (type : AtomicType) (bytes : List UInt8)
  /-- The canonical text of a value without a normal form. -/
  | lexical (type : AtomicType) (text : String)
  deriving DecidableEq, Repr

namespace EqualityKey

/-- The key of a double; both zeros have one. -/
def ofDouble (x : Double) : EqualityKey := if x.isZero then number .zero else number x

/-- The key of an exact number: that of a double if the double turns back into it. -/
def ofDecimal (x : Double) (d : Decimal) : EqualityKey :=
  match x.toDecimal? with
  | some e => if e.same d then ofDouble x else decimal d.normalize
  | none => decimal d.normalize

/-- The key of a number. -/
def ofNumber (n : Number) : EqualityKey :=
  if n.isNaN then nan
  else match n with
    | .int i => ofDecimal n.toDouble (.ofSigned64 i)
    | .dec d => ofDecimal n.toDouble d
    | .single _ | .double _ => ofDouble n.toDouble

/-- The kind of durations that months and seconds can equal. -/
def durationFamily (a : Atomic) (months : Int) (seconds : Decimal) : AtomicType :=
  match a with
  | .yearMonthDuration _ => .yearMonthDuration
  | .duration .. =>
    if months = 0 then .dayTimeDuration
    else if seconds.isZero then .yearMonthDuration
    else .duration
  | _ => .dayTimeDuration

/-- The key of a value. -/
def of (a : Atomic) (ctx : ValueContext) : Outcome EqualityKey :=
  match a with
  | .boolean b => .ok (boolean b)
  | .qName q => .ok (qName q.uri q.localName)
  | .notationName s => .ok (notationName s)
  | .dateTime t zone => (Atomic.toUtc t zone ctx).map (instant .dateTime)
  | .date d zone => (Atomic.toUtc (.startOf d) zone ctx).map (instant .date)
  | .time c zone => (Atomic.toUtc (.anchored c) zone ctx).map (instant .time)
  | .fragment f zone => do
    match ← Atomic.fragmentInstant f zone ctx with
    | some t => return instant a.type t
    | none => return lexical a.type a.text
  | .hexBinary s =>
    match Text.Hex.decode? s.toList with
    | some bytes => .ok (binary .hexBinary bytes)
    | none => .ok (lexical .hexBinary s)
  -- Casts write the canonical text, so that equal bytes have equal texts.
  | .base64Binary s => .ok (lexical .base64Binary s)
  | .untyped s | .string _ s | .anyURI s => .ok (string s)
  | .duration .. | .yearMonthDuration _ | .dayTimeDuration _ =>
    let (months, seconds) := a.durationParts?.getD (0, .zero)
    .ok (duration (durationFamily a months seconds) months seconds)
  | .decimal _ | .integer .. | .float _ | .double _ =>
    match Number.ofAtomic? a with
    | some n => .ok (ofNumber n)
    | none => .ok (lexical a.type a.text)

end EqualityKey

end XPathData
