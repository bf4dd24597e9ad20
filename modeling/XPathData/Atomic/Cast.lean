import XPathData.Error
import XPathData.Atomic.Context
import XPathData.Atomic.Value
import XPathData.Binary.Decimal
import XPathData.Duration.Lexical
import XPathData.Text.Base64
import XPathData.Text.Hex
import XPathData.Text.XmlName

/-! # Casting

  A cast turns a value into one of another type. Abstract types are no targets, a
  value of the target type stays as it is, and every value has a canonical text,
  so the string types are always in reach. Elsewhere a cast starts from the text
  of a string or an untyped value, or from a value of a related type.
-/

namespace XPathData.Atomic

open Text

/-! ### Errors of casts -/

/-- The types are unrelated. -/
def notCastable (a : Atomic) (target : AtomicType) : Error :=
  .ofCode .typeError ("cannot cast " ++ a.type.text ++ " to " ++ target.text)

/-- The text has not the form of the target. -/
def invalidForm (text : String) (target : AtomicType) : Error :=
  .ofCode .invalidValue ("invalid lexical form for " ++ target.text ++ ": '" ++ text ++ "'")

/-- The text has the form of the target but denotes nothing in it. -/
def outOfRange (text : String) (target : AtomicType) : Error :=
  .ofCode .invalidValue ("value out of range for " ++ target.text ++ ": '" ++ text ++ "'")

/-- NaN and the infinities have no counterpart in the target. -/
def notFinite (x : Double) (target : AtomicType) : Error :=
  let name := if x.isNaN then "NaN" else if x.isNegative then "-inf" else "inf"
  .ofCode .notFinite ("cannot cast " ++ name ++ " to " ++ target.text)

/-- The fault of a literal as an error. -/
def faultError (text : String) (target : AtomicType) : LexicalFault → Error
  | .malformed => invalidForm text target
  | .outOfRange => outOfRange text target

/-- The value of a literal, or its fault as an error. -/
def ofReading {α : Type} (text : String) (target : AtomicType) (r : Reading α) : Except Error α :=
  r.mapError (faultError text target)

/-- The value, or the error in place of none. -/
def orThrow {α : Type} (e : Error) : Option α → Except Error α
  | some a => .ok a
  | none => .error e

/-! ### Sources -/

/-- The text of a string or an untyped value. -/
def source? : Atomic → Option String
  | untyped s | string _ s => some s
  | _ => none

/-- The text that literals are read from: without white space at both ends. -/
def literalOf (text : String) : List Char := trimXml text.toList

/-- Reads a literal from the text of a string or an untyped value. -/
def castLiteral {α : Type} (a : Atomic) (target : AtomicType) (read : List Char → Reading α) :
    Except Error α :=
  match a.source? with
  | some text => ofReading text target (read (literalOf text))
  | none => .error (notCastable a target)

/-! ### Strings -/

/-- The form that the values of a string type have, after white space is collapsed. -/
def isForm (kind : StringKind) (s : List Char) : Bool :=
  match kind with
  | .string | .normalizedString | .token => true
  | .language => isLanguage s
  | .nmtoken => isNameToken s
  | .name => isName true s
  | .ncName | .id | .idref | .entity => isNCName s

/-- White space as the values of a string type have it. -/
def normalizeSpace (kind : StringKind) (s : List Char) : List Char :=
  match kind with
  | .string => s
  | .normalizedString => replaceSpace s
  | _ => collapseSpace s

/-- A text as a value of a string type. -/
def castString (text : String) (kind : StringKind) : Except Error Atomic :=
  let s := normalizeSpace kind text.toList
  if isForm kind s then .ok (string kind (String.ofList s))
  else .error (invalidForm text (.string kind))

/-! ### Booleans and numbers -/

/-- The words for true and false, and the numbers other than zero. -/
def castBoolean (a : Atomic) : Except Error Atomic :=
  match a with
  | untyped s | string _ s =>
    let literal := String.ofList (literalOf s)
    if literal = "true" ∨ literal = "1" then .ok (boolean true)
    else if literal = "false" ∨ literal = "0" then .ok (boolean false)
    else .error (invalidForm s .boolean)
  | decimal d => .ok (boolean !d.isZero)
  | double x => .ok (boolean (!x.isZero && !x.isNaN))
  | float x => .ok (boolean (!x.isZero && !x.isNaN))
  | integer _ n => .ok (boolean (n.val != 0))
  | _ => .error (notCastable a .boolean)

/-- The number one for true and zero for false. -/
def ofBool (b : Bool) : Int := if b then 1 else 0

/-- A sign and digits without a point. -/
def isIntegerForm (s : List Char) : Bool :=
  let digits := (Decimal.takeSign s).2
  !digits.isEmpty && digits.all isDigit

/-- A decimal numeral, with an exponent or not. -/
def isDoubleForm (s : List Char) : Bool :=
  let mantissa := s.takeWhile fun c => c != 'e' && c != 'E'
  match s.dropWhile fun c => c != 'e' && c != 'E' with
  | [] => Decimal.isLexical mantissa
  | _ :: exponent => Decimal.isLexical mantissa && isIntegerForm exponent

/-- Reads a floating-point literal: a numeral or one of the three words. -/
def readBinary? (f : BinaryFormat) (s : List Char) : Option (Binary f) :=
  if s = "INF".toList then some (.infinity false)
  else if s = "-INF".toList then some (.infinity true)
  else if s = "NaN".toList then some .nan
  else if isDoubleForm s then some (.ofLiteral f s)
  else none

/-- The number of 64 bits that a text denotes, white space around it left out. -/
def readDouble? (text : String) : Option Double := readBinary? .binary64 (literalOf text)

/-- A finite number of 64 bits as a decimal one. -/
def decimalOfDouble (x : Double) : Except Error Decimal :=
  if x.isFinite then
    orThrow (.ofCode .decimalTooLarge "value too large for xs:decimal") x.toDecimal?
  else .error (notFinite x .decimal)

/-- A cast to decimal. -/
def castDecimal (a : Atomic) : Except Error Decimal :=
  match a with
  | untyped s | string _ s =>
    let literal := literalOf s
    if Decimal.isLexical literal then
      orThrow (.ofCode .decimalTooLarge
        ("'" ++ String.ofList literal ++ "' is too large for xs:decimal")) (Decimal.read? literal)
    else .error (invalidForm s .decimal)
  | boolean b => orThrow (notCastable a .decimal) (Decimal.ofInt? (ofBool b))
  | double x => decimalOfDouble x
  | float x => decimalOfDouble (x.convert .binary64)
  | integer k n => .ok (Decimal.ofWord n k.bounds)
  | decimal d => .ok d
  | _ => .error (notCastable a .decimal)

/-- A cast to a number of 64 bits. -/
def castDouble (a : Atomic) : Except Error Double :=
  match a with
  | untyped s | string _ s => orThrow (invalidForm s .double) (readDouble? s)
  | boolean b => .ok (.ofInt .binary64 (ofBool b))
  | double x => .ok x
  | float x => .ok (x.convert .binary64)
  | decimal d => .ok d.toDouble
  | integer _ n => .ok (.ofInt .binary64 n.val)
  | _ => .error (notCastable a .double)

/-- A cast to a number of 32 bits; all but literals are rounded to 64 bits before. -/
def castSingle (a : Atomic) : Except Error Single :=
  match a with
  | untyped s | string _ s =>
    orThrow (invalidForm s .float) (readBinary? .binary32 (literalOf s))
  | float x => .ok x
  | decimal d => .ok d.toSingle
  | _ =>
    match castDouble a with
    | .ok x => .ok (x.convert .binary32)
    | .error _ => .error (notCastable a .float)

/-! ### Integers -/

/-- The greatest integer of 128 bits with a sign. -/
def wideMax : Int := 0x7FFFFFFFFFFFFFFFFFFFFFFFFFFFFFFF

/-- The least integer of 128 bits with a sign. -/
def wideMin : Int := -0x80000000000000000000000000000000

/-- The integer that a numeral with an optional sign denotes. -/
def readInteger (s : List Char) : Int :=
  let (negative, digits) := Decimal.takeSign s
  if negative then -(readDigits digits : Int) else readDigits digits

/-- The integer toward zero from a finite number, up to 128 bits. -/
def integerOfDouble (x : Double) (target : AtomicType) : Except Error Int :=
  match x.whole? with
  | some n =>
    if n < wideMin ∨ wideMax + 1 < n then
      .error (.ofCode .integerTooLarge ("value too large for " ++ target.text))
    else .ok (min n wideMax)
  | none => .error (notFinite x target)

/-- The integer that a value denotes, toward zero. -/
def integerOf (a : Atomic) (target : AtomicType) : Except Error Int :=
  match a with
  | untyped s | string _ s =>
    let literal := literalOf s
    if isIntegerForm literal then
      let n := readInteger literal
      if wideMin ≤ n ∧ n ≤ wideMax then .ok n
      else .error (.ofCode .integerTooLarge
        ("'" ++ String.ofList literal ++ "' is too large for " ++ target.text))
    else .error (invalidForm s target)
  | boolean b => .ok (ofBool b)
  | decimal d => .ok d.whole
  | double x => integerOfDouble x target
  | float x => integerOfDouble (x.convert .binary64) target
  | integer _ n => .ok n.val
  | _ => .error (notCastable a target)

/-- An integer as a value of an integer type, with the bounds of the type checked. -/
def ofInteger (n : Int) (k : IntegerKind) : Except Error Atomic :=
  let failure : Error :=
    .ofCode (if k = .integer then .integerTooLarge else .invalidValue)
      (String.ofList (writeInt n) ++ " is out of range for " ++ (AtomicType.integer k).text)
  if k.admits n then (orThrow failure (Bounded.ofInt? n)).map (integer k) else .error failure

/-! ### Durations -/

/-- The months and seconds of a duration literal of a type. -/
def readDuration (target : AtomicType) (s : List Char) : Reading (Int × Decimal) :=
  match target with
  | .yearMonthDuration => do return ((← DurationLiteral.readMonths s).val, .zero)
  | .dayTimeDuration => do return (0, ← DurationLiteral.readDayTime s)
  | _ => do
    let l ← DurationLiteral.read s
    return (l.months, l.seconds)

/-- The months and seconds of a value. -/
def durationParts (a : Atomic) (target : AtomicType) : Except Error (Signed32 × Decimal) :=
  match a with
  | duration m s => .ok (m, s)
  | yearMonthDuration m => .ok (m, .zero)
  | dayTimeDuration s => .ok (.zero, s)
  | _ => do
    let (months, seconds) ← castLiteral a target (readDuration target)
    let text := (source? a).getD ""
    let months ← orThrow
      (.ofCode .durationOverflow ("duration overflow: '" ++ text ++ "'")) (Bounded.ofInt? months)
    return (months, seconds)

/-- A cast to a type of durations; parts that the type lacks are left out. -/
def castDuration (a : Atomic) (target : AtomicType) : Except Error Atomic := do
  let (months, seconds) ← durationParts a target
  match target with
  | .yearMonthDuration => return yearMonthDuration months
  | .dayTimeDuration => return dayTimeDuration seconds
  | _ => return duration months seconds

/-! ### Dates and times -/

/-- A cast to a date-time; a date becomes its start. -/
def castDateTime (a : Atomic) : Except Error Atomic :=
  match a with
  | date d zone => .ok (dateTime (.startOf d) zone)
  | _ => (castLiteral a .dateTime Calendar.readDateTime).map fun (t, zone) => dateTime t zone

/-- A cast to a date. -/
def castDate (a : Atomic) : Except Error Atomic :=
  match a with
  | dateTime t zone => .ok (date t.date zone)
  | _ => (castLiteral a .date Calendar.readDate).map fun (d, zone) => date d zone

/-- A cast to a time. -/
def castTime (a : Atomic) : Except Error Atomic :=
  match a with
  | dateTime t zone => .ok (time t.clock zone)
  | _ => (castLiteral a .time Calendar.readTime).map fun (c, zone) => time c zone

/-- A cast to a fragment of a date. -/
def castFragment (a : Atomic) (k : FragmentKind) : Except Error Atomic :=
  match a with
  | date d zone => .ok (fragment (.ofDate d k) zone)
  | dateTime t zone => .ok (fragment (.ofDate t.date k) zone)
  | _ => (castLiteral a (.fragment k) (Fragment.read k)).map fun (f, zone) => fragment f zone

/-! ### Bytes, URIs and names -/

/-- The bytes of a binary value, or those that a text denotes in the target. -/
def bytesOf (a : Atomic) (target : AtomicType) : Except Error (List UInt8) :=
  match a with
  | hexBinary s => orThrow (invalidForm s .hexBinary) (Hex.decode? s.toList)
  | base64Binary s => orThrow (invalidForm s .base64Binary) (Base64.decode? s.toList)
  | untyped s | string _ s =>
    -- White space may stand anywhere between the digits.
    let compact := s.toList.filter fun c => !isAsciiSpace c
    orThrow (invalidForm s target)
      (if target = .hexBinary then Hex.decode? compact else Base64.decode? compact)
  | _ => .error (notCastable a target)

/-- Bytes as hexadecimal digits. -/
def ofBytesHex (bytes : List UInt8) : Atomic := hexBinary (String.ofList (Hex.encode bytes))

/-- Bytes in base 64. -/
def ofBytesBase64 (bytes : List UInt8) : Atomic :=
  base64Binary (String.ofList (Base64.encode bytes))

/-- A cast to a qualified name, its prefix looked up in the context. -/
def castQName (a : Atomic) (ctx : ValueContext) : Except Error Atomic :=
  match a.source? with
  | none => .error (notCastable a .qName)
  | some text =>
    match readQName? (literalOf text) with
    | none => .error (invalidForm text .qName)
    | some (none, l) => .ok (qName (.unprefixed (String.ofList l)))
    | some (some p, l) =>
      let nsPrefix := String.ofList p
      match ctx.resolve? nsPrefix with
      | some uri => .ok (qName ⟨some nsPrefix, String.ofList l, some uri⟩)
      | none => .error (.ofCode .unboundNamePrefix
          ("no namespace bound to prefix '" ++ nsPrefix ++ "'"))

/-! ### All targets -/

/-- Turns a value into one of a concrete type that it does not have yet. -/
def convert (a : Atomic) (target : AtomicType) (ctx : ValueContext) : Except Error Atomic :=
  match target with
  | .untypedAtomic => .ok (untyped a.text)
  | .string k => castString a.text k
  | .boolean => castBoolean a
  | .decimal => (castDecimal a).map decimal
  | .double => (castDouble a).map double
  | .float => (castSingle a).map float
  | .integer k => do ofInteger (← integerOf a target) k
  | .duration | .yearMonthDuration | .dayTimeDuration => castDuration a target
  | .dateTime => castDateTime a
  | .date => castDate a
  | .time => castTime a
  | .fragment k => castFragment a k
  | .hexBinary => (bytesOf a target).map ofBytesHex
  | .base64Binary => (bytesOf a target).map ofBytesBase64
  | .anyURI =>
    match a.source? with
    | some s => .ok (anyURI (String.ofList (collapseSpace s.toList)))
    | none => .error (notCastable a target)
  | .qName => castQName a ctx
  | .anyAtomic | .notationName => .error (notCastable a target)

/-- Casts a value to a type. -/
def cast (a : Atomic) (target : AtomicType) (ctx : ValueContext) : Except Error Atomic :=
  if target.isAbstract then
    .error (.ofCode .abstractTarget ("cannot cast to abstract type " ++ target.text))
  else if a.type = target then .ok a
  else a.convert target ctx

end XPathData.Atomic
