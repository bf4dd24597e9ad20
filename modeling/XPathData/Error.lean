import XPathData.Name
import XPathData.Text.Split

/-! # Errors

  An error carries a code, the kind of failure it reports and a message for the
  reader. Codes are names; those of the standard are listed in `ErrorCode`. A
  date or time that leaves the calendar while it is brought to UTC is not an
  error of the language: `Failure` keeps it apart, and nothing recovers from it.
-/

namespace XPathData

/-! ### Kinds -/

/-- What went wrong, in the terms of the language. -/
inductive ErrorKind where
  /-- An operand or item of the wrong type. -/
  | typeMismatch
  /-- Too few or too many items. -/
  | cardinalityViolation
  /-- A value that does not convert to the target type. -/
  | invalidCastValue
  /-- A type name without a type. -/
  | undefinedType
  /-- A prefix, function or collation that is not known. -/
  | unresolvedName
  /-- A faulty pattern, flag or replacement. -/
  | invalidRegex
  /-- A zero divisor. -/
  | divisionByZero
  /-- A number or time out of range. -/
  | invalidNumericOperand
  /-- Any other failure. -/
  | other
  deriving DecidableEq, Repr

/-! ### Codes -/

/-- The standard error codes, named for their cause. -/
inductive ErrorCode where
  | divisionByZero
  | numericOverflow
  | decimalTooLarge
  | notFinite
  | integerTooLarge
  | nanForDuration
  | dateTimeOverflow
  | durationOverflow
  | unsupportedCollation
  | unidentified
  | unboundNamePrefix
  | invalidValue
  | notZeroOrOne
  | notOneOrMore
  | notExactlyOne
  | invalidArgument
  | invalidFlags
  | invalidPattern
  | matchesEmpty
  | invalidReplacement
  | treatFailed
  | unknownFunction
  | unknownType
  | abstractTarget
  | unboundPrefix
  | typeError
  | unknown
  deriving DecidableEq, Repr

namespace ErrorCode

/-- The local name of the code in the error namespace. -/
def localName : ErrorCode → String
  | divisionByZero => "FOAR0001"
  | numericOverflow => "FOAR0002"
  | decimalTooLarge => "FOCA0001"
  | notFinite => "FOCA0002"
  | integerTooLarge => "FOCA0003"
  | nanForDuration => "FOCA0005"
  | dateTimeOverflow => "FODT0001"
  | durationOverflow => "FODT0002"
  | unsupportedCollation => "FOCH0002"
  | unidentified => "FOER0000"
  | unboundNamePrefix => "FONS0004"
  | invalidValue => "FORG0001"
  | notZeroOrOne => "FORG0003"
  | notOneOrMore => "FORG0004"
  | notExactlyOne => "FORG0005"
  | invalidArgument => "FORG0006"
  | invalidFlags => "FORX0001"
  | invalidPattern => "FORX0002"
  | matchesEmpty => "FORX0003"
  | invalidReplacement => "FORX0004"
  | treatFailed => "XPDY0050"
  | unknownFunction => "XPST0017"
  | unknownType => "XPST0051"
  | abstractTarget => "XPST0080"
  | unboundPrefix => "XPST0081"
  | typeError => "XPTY0004"
  | unknown => "UNKNOWN"

/-- Every code but `unknown`. -/
def all : List ErrorCode :=
  [divisionByZero, numericOverflow, decimalTooLarge, notFinite, integerTooLarge, nanForDuration,
   dateTimeOverflow, durationOverflow, unsupportedCollation, unidentified, unboundNamePrefix,
   invalidValue, notZeroOrOne, notOneOrMore, notExactlyOne, invalidArgument, invalidFlags,
   invalidPattern, matchesEmpty, invalidReplacement, treatFailed, unknownFunction, unknownType,
   abstractTarget, unboundPrefix, typeError]

/-- The code with its usual prefix. -/
def text (c : ErrorCode) : String := "err:" ++ c.localName

/-- The code as a name in the error namespace. -/
def name (c : ErrorCode) : ExpandedName := ⟨some Namespace.errors, c.localName⟩

/-- The code written as `s`; any other text is `unknown`. -/
def ofText (s : String) : ErrorCode := (all.find? fun c => c.text = s).getD unknown

/-- The kind of failure that a code reports. -/
def kind : ErrorCode → ErrorKind
  | typeError | treatFailed | invalidArgument | abstractTarget => .typeMismatch
  | notZeroOrOne | notOneOrMore | notExactlyOne => .cardinalityViolation
  | invalidValue | decimalTooLarge | notFinite | integerTooLarge => .invalidCastValue
  | unknownType => .undefinedType
  | unboundPrefix | unboundNamePrefix | unknownFunction | unsupportedCollation => .unresolvedName
  | invalidFlags | invalidPattern | matchesEmpty | invalidReplacement => .invalidRegex
  | divisionByZero => .divisionByZero
  | numericOverflow | nanForDuration | dateTimeOverflow | durationOverflow => .invalidNumericOperand
  | unidentified | unknown => .other

end ErrorCode

/-! ### Errors -/

/-- A failure with its code, kind and message. -/
structure Error where
  /-- The code, a name of the standard or of the caller. -/
  code : ExpandedName
  /-- The kind, which need not be the usual one of the code. -/
  kind : ErrorKind
  /-- The message. -/
  message : String
  deriving DecidableEq, Repr

namespace Error

/-- An error with a standard code and the kind that belongs to it. -/
def ofCode (c : ErrorCode) (message : String) : Error := ⟨c.name, c.kind, message⟩

/-- A wrong number of items, reported under the given code. -/
def cardinality (c : ErrorCode) (message : String) : Error :=
  ⟨c.name, .cardinalityViolation, message⟩

/-- The standard code that a name stands for; `unknown` outside the error namespace. -/
def codeOfName (n : ExpandedName) : ErrorCode :=
  if n.uri = some Namespace.errors then ErrorCode.ofText ("err:" ++ n.localName) else .unknown

/-- An error with any code; only standard codes give it a kind. -/
def ofName (code : ExpandedName) (message : String) : Error :=
  ⟨code, (codeOfName code).kind, message⟩

/-- No operator of this name exists for the two operands. -/
def undefinedOperator (op left right : String) : Error :=
  ofCode .typeError ("operator '" ++ op ++ "' is not defined for " ++ left ++ " and " ++ right)

/-- The standard code of an error. -/
def standardCode (e : Error) : ErrorCode := codeOfName e.code

/-- Standard codes are written with their prefix, others with their namespace in braces. -/
def formatCode (code : ExpandedName) : String :=
  match code.uri with
  | none => code.localName
  | some uri =>
    if uri = Namespace.errors then "err:" ++ code.localName
    else ExpandedName.braced uri code.localName

/-- Reads a prefixed standard code, a namespace in braces with a local part, or a bare name. -/
def parseCode (s : String) : ExpandedName :=
  match Text.dropLead? "err:".toList s.toList with
  | some rest => ⟨some Namespace.errors, String.ofList rest⟩
  | none =>
    match (Text.dropLead? "Q\x7b".toList s.toList).bind (Text.splitFirst '\x7d') with
    | some (uri, rest) => ⟨some (String.ofList uri), String.ofList rest⟩
    | none => ⟨none, s⟩

/-- The message with the code in parentheses. -/
def text (e : Error) : String := "error: " ++ e.message ++ " (" ++ formatCode e.code ++ ")"

end Error

/-! ### Failures -/

/-- Why a computation has no value. -/
inductive Failure where
  /-- An error that a caller may handle. -/
  | error (e : Error)
  /-- A date or time left the calendar on its way to UTC; no caller handles this. -/
  | outOfCalendar
  deriving DecidableEq, Repr

/-- A computation that may fail in either way. -/
abbrev Outcome (α : Type) := Except Failure α

instance : MonadLift (Except Error) (Except Failure) where
  monadLift
    | .ok a => .ok a
    | .error e => .error (.error e)

namespace Outcome

/-- Replaces the error, and lets a departure from the calendar pass. -/
def mapError {α : Type} (f : Error → Error) : Outcome α → Outcome α
  | .error (.error e) => .error (.error (f e))
  | other => other

/-- The value, or `default` in place of an error. -/
def orElse {α : Type} (default : α) : Outcome α → Outcome α
  | .error (.error _) => .ok default
  | other => other

end Outcome

end XPathData
