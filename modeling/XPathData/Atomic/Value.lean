import XPathData.Atomic.Kind
import XPathData.Binary.Text
import XPathData.Calendar.Text
import XPathData.Duration.Text

/-! # Atomic values

  A value keeps the type it was made with. Values of the string types, of the
  binary types and of `NOTATION` hold text, integers hold a word that suits their
  type, dates and times hold the local value and the timezone they were written
  with. `Atomic.text` is the canonical text of a value.
-/

namespace XPathData

/-! ### Words of integers -/

namespace IntegerKind

/-- The least integer that a value of the type can hold. -/
def low : IntegerKind → Int
  | integer | nonPositiveInteger | negativeInteger | long => -0x8000000000000000
  | int => -0x80000000
  | short => -0x8000
  | byte => -0x80
  | nonNegativeInteger | unsignedLong | unsignedInt | unsignedShort | unsignedByte
  | positiveInteger => 0

/-- The greatest integer that a value of the type can hold. -/
def high : IntegerKind → Int
  | integer | nonPositiveInteger | negativeInteger | long => 0x7FFFFFFFFFFFFFFF
  | int => 0x7FFFFFFF
  | short => 0x7FFF
  | byte => 0x7F
  | nonNegativeInteger | unsignedLong | positiveInteger => 0xFFFFFFFFFFFFFFFF
  | unsignedInt => 0xFFFFFFFF
  | unsignedShort => 0xFFFF
  | unsignedByte => 0xFF

/-- What a value of the type can hold. -/
abbrev Word (k : IntegerKind) := Bounded k.low k.high

theorem bounds (k : IntegerKind) : 
    -0x10000000000000000 ≤ k.low ∧ k.high ≤ 0x10000000000000000 := by
  cases k <;> decide

/-- The type has this integer among its values, as far as the sign goes. -/
def admits (k : IntegerKind) (n : Int) : Bool :=
  match k with
  | nonPositiveInteger => n ≤ 0
  | negativeInteger => n < 0
  | positiveInteger => 1 ≤ n
  | _ => true

end IntegerKind

/-! ### Values -/

/-- An atomic value. -/
inductive Atomic where
  | untyped (text : String)
  | string (kind : StringKind) (text : String)
  | boolean (value : Bool)
  | decimal (value : Decimal)
  | integer (kind : IntegerKind) (value : kind.Word)
  | float (value : Single)
  | double (value : Double)
  | duration (months : Signed32) (seconds : Decimal)
  | yearMonthDuration (months : Signed32)
  | dayTimeDuration (seconds : Decimal)
  | dateTime (value : DateTime) (zone : Option Offset)
  | date (value : Date) (zone : Option Offset)
  | time (value : Clock) (zone : Option Offset)
  | fragment (value : Fragment) (zone : Option Offset)
  | hexBinary (text : String)
  | base64Binary (text : String)
  | anyURI (text : String)
  | qName (name : QName)
  | notationName (text : String)
  deriving DecidableEq, Repr

namespace Atomic

/-- A string. -/
abbrev str (s : String) : Atomic := string .string s

/-- An integer of 64 bits. -/
abbrev int (n : Signed64) : Atomic := integer .integer n

/-- The type of a value. -/
def type : Atomic → AtomicType
  | untyped _ => .untypedAtomic
  | string k _ => .string k
  | boolean _ => .boolean
  | decimal _ => .decimal
  | integer k _ => .integer k
  | float _ => .float
  | double _ => .double
  | duration .. => .duration
  | yearMonthDuration _ => .yearMonthDuration
  | dayTimeDuration _ => .dayTimeDuration
  | dateTime .. => .dateTime
  | date .. => .date
  | time .. => .time
  | fragment f _ => .fragment f.kind
  | hexBinary _ => .hexBinary
  | base64Binary _ => .base64Binary
  | anyURI _ => .anyURI
  | qName _ => .qName
  | notationName _ => .notationName

/-- A value of a numeric type. -/
def isNumeric (a : Atomic) : Bool := a.type.isNumeric

/-- No number. -/
def isNaN : Atomic → Bool
  | float x => x.isNaN
  | double x => x.isNaN
  | _ => false

/-- The text of a value of the string types, an untyped value or a URI. -/
def text? : Atomic → Option String
  | untyped s | string _ s | anyURI s => some s
  | _ => none

/-- The integer that a value of an integer type holds. -/
def integer? : Atomic → Option Int
  | integer _ n => some n.val
  | _ => none

/-! ### Canonical text -/

/-- The canonical text of a value. -/
def text : Atomic → String
  | untyped s | string _ s | anyURI s | hexBinary s | base64Binary s | notationName s => s
  | boolean b => if b then "true" else "false"
  | decimal d => d.text
  | integer _ n => String.ofList (Text.writeInt n.val)
  | float x => x.text
  | double x => x.text
  | duration months seconds => Duration.text months.val seconds
  | yearMonthDuration months => Duration.monthsText months.val
  | dayTimeDuration seconds => Duration.text 0 seconds
  | dateTime t zone => String.ofList (Calendar.writeDateTime t ++ Calendar.writeZone zone)
  | date d zone => String.ofList (Calendar.writeDate d ++ Calendar.writeZone zone)
  | time c zone => String.ofList (Calendar.writeClock c ++ Calendar.writeZone zone)
  | fragment f zone => String.ofList (Calendar.writeFragment f ++ Calendar.writeZone zone)
  | qName q => q.text

/-! ### Sameness -/

/-- Two values of one type with the same content: numbers equal by value, so that NaN
    is not the same as itself, and all else equal part by part. -/
def same : Atomic → Atomic → Bool
  | float x, float y => x.same y
  | double x, double y => x.same y
  | decimal x, decimal y => x.same y
  | duration m s, duration n t => m == n && s.same t
  | dayTimeDuration s, dayTimeDuration t => s.same t
  | a, b => a == b

end Atomic

end XPathData
