import XPathData.Name
import XPathData.Calendar.Lexical

/-! # Atomic types

  The built-in atomic types form a tree below `anyAtomic`. The types derived from
  strings, the integer types and the fragments of dates are families of their own,
  so that one rule serves a whole family.
-/

namespace XPathData

/-! ### Families -/

/-- The types of strings. -/
inductive StringKind where
  | string
  | normalizedString
  | token
  | language
  | nmtoken
  | name
  | ncName
  | id
  | idref
  | entity
  deriving DecidableEq, Repr

/-- The types of integers. -/
inductive IntegerKind where
  | integer
  | nonPositiveInteger
  | negativeInteger
  | long
  | int
  | short
  | byte
  | nonNegativeInteger
  | unsignedLong
  | unsignedInt
  | unsignedShort
  | unsignedByte
  | positiveInteger
  deriving DecidableEq, Repr

/-- A built-in atomic type. -/
inductive AtomicType where
  | anyAtomic
  | untypedAtomic
  | string (kind : StringKind)
  | boolean
  | decimal
  | integer (kind : IntegerKind)
  | float
  | double
  | duration
  | yearMonthDuration
  | dayTimeDuration
  | dateTime
  | date
  | time
  | fragment (kind : FragmentKind)
  | hexBinary
  | base64Binary
  | anyURI
  | qName
  | notationName
  deriving DecidableEq, Repr

/-! ### Names -/

/-- The local name of a string type. -/
def StringKind.localName : StringKind → String
  | string => "string"
  | normalizedString => "normalizedString"
  | token => "token"
  | language => "language"
  | nmtoken => "NMTOKEN"
  | name => "Name"
  | ncName => "NCName"
  | id => "ID"
  | idref => "IDREF"
  | entity => "ENTITY"

/-- The local name of an integer type. -/
def IntegerKind.localName : IntegerKind → String
  | integer => "integer"
  | nonPositiveInteger => "nonPositiveInteger"
  | negativeInteger => "negativeInteger"
  | long => "long"
  | int => "int"
  | short => "short"
  | byte => "byte"
  | nonNegativeInteger => "nonNegativeInteger"
  | unsignedLong => "unsignedLong"
  | unsignedInt => "unsignedInt"
  | unsignedShort => "unsignedShort"
  | unsignedByte => "unsignedByte"
  | positiveInteger => "positiveInteger"

/-- The local name of a type of fragments. -/
def FragmentKind.localName : FragmentKind → String
  | yearMonth => "gYearMonth"
  | year => "gYear"
  | monthDay => "gMonthDay"
  | day => "gDay"
  | month => "gMonth"

namespace AtomicType

/-- The local name of a type in the schema namespace. -/
def localName : AtomicType → String
  | anyAtomic => "anyAtomicType"
  | untypedAtomic => "untypedAtomic"
  | string k => k.localName
  | boolean => "boolean"
  | decimal => "decimal"
  | integer k => k.localName
  | float => "float"
  | double => "double"
  | duration => "duration"
  | yearMonthDuration => "yearMonthDuration"
  | dayTimeDuration => "dayTimeDuration"
  | dateTime => "dateTime"
  | date => "date"
  | time => "time"
  | fragment k => k.localName
  | hexBinary => "hexBinary"
  | base64Binary => "base64Binary"
  | anyURI => "anyURI"
  | qName => "QName"
  | notationName => "NOTATION"

/-- Every atomic type. -/
def all : List AtomicType :=
  [anyAtomic, untypedAtomic, string .string, string .normalizedString, string .token,
   string .language, string .nmtoken, string .name, string .ncName, string .id, string .idref,
   string .entity, boolean, decimal, integer .integer, integer .nonPositiveInteger,
   integer .negativeInteger, integer .long, integer .int, integer .short, integer .byte,
   integer .nonNegativeInteger, integer .unsignedLong, integer .unsignedInt,
   integer .unsignedShort, integer .unsignedByte, integer .positiveInteger, float, double,
   duration, yearMonthDuration, dayTimeDuration, dateTime, date, time, fragment .yearMonth,
   fragment .year, fragment .monthDay, fragment .day, fragment .month, hexBinary, base64Binary,
   anyURI, qName, notationName]

/-- The type with a local name. -/
def ofLocalName? (s : String) : Option AtomicType := all.find? fun t => t.localName = s

/-- The type with a name; a name in no namespace is taken as one of the schema namespace. -/
def ofName? (n : ExpandedName) : Option AtomicType :=
  if n.uri = none ∨ n.uri = some Namespace.schema then ofLocalName? n.localName else none

/-- The name of a type. -/
def name (t : AtomicType) : ExpandedName := .schema t.localName

/-- The text of a type, with the usual prefix of the schema namespace. -/
def text (t : AtomicType) : String := "xs:" ++ t.localName

/-! ### Derivation -/

end AtomicType

/-- The string type that a string type restricts; none for `string` itself. -/
def StringKind.parent? : StringKind → Option StringKind
  | string => none
  | normalizedString => some string
  | token => some normalizedString
  | language | nmtoken | name => some token
  | ncName => some name
  | id | idref | entity => some ncName

/-- The integer type that an integer type restricts; none for `integer` itself. -/
def IntegerKind.parent? : IntegerKind → Option IntegerKind
  | integer => none
  | nonPositiveInteger | long | nonNegativeInteger => some integer
  | negativeInteger => some nonPositiveInteger
  | int => some long
  | short => some int
  | byte => some short
  | unsignedLong | positiveInteger => some nonNegativeInteger
  | unsignedInt => some unsignedLong
  | unsignedShort => some unsignedInt
  | unsignedByte => some unsignedShort

namespace AtomicType

/-- The type that a type restricts; none for `anyAtomic`. -/
def parent? : AtomicType → Option AtomicType
  | anyAtomic => none
  | string k => some ((k.parent?.map string).getD anyAtomic)
  | integer k => some ((k.parent?.map integer).getD decimal)
  | yearMonthDuration | dayTimeDuration => some duration
  | _ => some anyAtomic

/-- The number of steps from a type up to `anyAtomic`, at most. -/
def depth : AtomicType → Nat
  | anyAtomic => 0
  | string .string => 1
  | string .normalizedString => 2
  | string .token => 3
  | string .language | string .nmtoken | string .name => 4
  | string .ncName => 5
  | string _ => 6
  | integer .integer => 2
  | integer .nonPositiveInteger | integer .long | integer .nonNegativeInteger => 3
  | integer .negativeInteger | integer .int | integer .unsignedLong
  | integer .positiveInteger => 4
  | integer .short | integer .unsignedInt => 5
  | integer .byte | integer .unsignedShort => 6
  | integer .unsignedByte => 7
  | yearMonthDuration | dayTimeDuration => 2
  | _ => 1

theorem depth_parent {t p : AtomicType} (h : t.parent? = some p) : p.depth < t.depth := by
  cases t with
  | string k => cases k <;> simp [parent?, StringKind.parent?] at h <;> subst h <;> decide
  | integer k => cases k <;> simp [parent?, IntegerKind.parent?] at h <;> subst h <;> decide
  | _ => simp [parent?] at h <;> subst h <;> simp [depth]

/-- A type and the types above it, in ascending order. -/
def ancestors (t : AtomicType) : List AtomicType :=
  match _h : t.parent? with
  | none => [t]
  | some p => t :: p.ancestors
termination_by t.depth
decreasing_by exact depth_parent _h

/-- A type is the other or restricts it in some steps. -/
def derivesFrom (t other : AtomicType) : Bool := t.ancestors.contains other

/-- The ancestor of a type right below `anyAtomic`. -/
def primitive : AtomicType → AtomicType
  | string _ => string .string
  | integer _ => decimal
  | yearMonthDuration | dayTimeDuration => duration
  | t => t

/-! ### Classes of types -/

/-- The numeric types. -/
def isNumeric : AtomicType → Bool
  | decimal | integer _ | float | double => true
  | _ => false

/-- The integer types. -/
def isInteger : AtomicType → Bool
  | integer _ => true
  | _ => false

/-- The types of strings. -/
def isString : AtomicType → Bool
  | string _ => true
  | _ => false

/-- The types of durations. -/
def isDuration : AtomicType → Bool
  | duration | yearMonthDuration | dayTimeDuration => true
  | _ => false

/-- A type without values of its own, which no cast can have as target. -/
def isAbstract : AtomicType → Bool
  | anyAtomic | notationName => true
  | _ => false

/-- The place of a type among those that promote to one another: integer, decimal,
    float, double; the two kinds of durations, then the general one. -/
def rank? : AtomicType → Option Nat
  | integer _ => some 0
  | decimal => some 1
  | float => some 2
  | double => some 3
  | yearMonthDuration | dayTimeDuration => some 0
  | duration => some 1
  | _ => none

end AtomicType

end XPathData
