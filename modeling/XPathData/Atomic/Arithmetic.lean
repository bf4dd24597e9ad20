import XPathData.Atomic.Cast
import XPathData.Atomic.Promotion
import XPathData.Decimal.Remainder

/-! # Arithmetic

  An operator looks at its two operands: two numbers are computed in their common
  representation, durations are added to one another and scaled by numbers, dates
  and times are shifted by durations and subtracted from one another. Untyped
  operands count as doubles, and every other pair has no operator.
-/

namespace XPathData

/-! ### Operators -/

/-- The arithmetic operators. -/
inductive ArithmeticOp where
  | add
  | sub
  | mul
  | div
  | idiv
  | mod
  deriving DecidableEq, Repr

/-- The symbol of an operator. -/
def ArithmeticOp.symbol : ArithmeticOp → String
  | add => "+"
  | sub => "-"
  | mul => "*"
  | div => "div"
  | idiv => "idiv"
  | mod => "mod"

namespace Atomic

/-! ### Errors of arithmetic -/

/-- The result of a numeric operator is out of range. -/
def overflow : Error := .ofCode .numericOverflow "numeric overflow"

/-- The divisor is zero. -/
def divisionByZero : Error := .ofCode .divisionByZero "division by zero"

/-- A duration is out of range. -/
def durationOverflow : Error := .ofCode .durationOverflow "duration overflow"

/-- The months and the seconds of a duration would have different signs. -/
def mixedSigns : Error :=
  .ofCode .durationOverflow "duration result mixes positive and negative parts"

/-- A date or time is out of range. -/
def dateTimeOverflow : Error := .ofCode .dateTimeOverflow "date/time overflow"

/-- A text does not denote a double. -/
def notANumber (text : String) : Error :=
  .ofCode .invalidValue ("cannot convert '" ++ text ++ "' to xs:double")

/-! ### Untyped operands -/

/-- Untyped values are taken as doubles, others as they are. -/
def typedOperand (a : Atomic) : Except Error Atomic :=
  match a with
  | untyped s => (orThrow (notANumber s) (readDouble? s)).map double
  | _ => .ok a

/-! ### Numbers -/

/-- Integers of 64 bits; a quotient is a decimal. -/
def integerArithmetic (op : ArithmeticOp) (x y : Signed64) : Except Error Atomic :=
  match op with
  | .add => (orThrow overflow (x.add? y)).map int
  | .sub => (orThrow overflow (x.sub? y)).map int
  | .mul => (orThrow overflow (x.mul? y)).map int
  | .div =>
    if y.val = 0 then .error divisionByZero
    else (orThrow overflow ((Decimal.ofSigned64 x).div? (.ofSigned64 y))).map decimal
  | .idiv =>
    if y.val = 0 then .error divisionByZero
    else (orThrow overflow (Bounded.ofInt? (x.val.tdiv y.val))).map int
  | .mod =>
    if y.val = 0 then .error divisionByZero
    else (orThrow overflow (Bounded.ofInt? (x.val.tmod y.val))).map int

/-- Decimals. -/
def decimalArithmetic (op : ArithmeticOp) (x y : Decimal) : Except Error Atomic :=
  match op with
  | .add => (orThrow overflow (x.add? y)).map decimal
  | .sub => (orThrow overflow (x.sub? y)).map decimal
  | .mul => (orThrow overflow (x.mul? y)).map decimal
  | .div =>
    if y.isZero then .error divisionByZero
    else (orThrow overflow (x.div? y)).map decimal
  | .idiv =>
    if y.isZero then .error divisionByZero
    else do
      let q ← orThrow overflow (x.div? y)
      (orThrow overflow (Bounded.ofInt? q.whole)).map int
  | .mod =>
    if y.isZero then .error divisionByZero
    else (orThrow overflow (x.rem? y)).map decimal

/-- The integer quotient of two floating-point numbers, toward zero. -/
def binaryQuotient (x y : Double) : Except Error Atomic :=
  if y.isZero then .error divisionByZero
  else if x.isNaN || y.isNaN || x.isInfinite then
    .error (.ofCode .numericOverflow "idiv operand is NaN or infinite")
  else match (x.div y).whole? with
    | some q => (orThrow overflow (Bounded.ofInt? q)).map int
    | none => .error overflow

/-- Floating-point numbers, computed in 64 bits; `wrap` makes the result a value. -/
def binaryArithmetic (wrap : Double → Atomic) (op : ArithmeticOp) (x y : Double) :
    Except Error Atomic :=
  match op with
  | .add => .ok (wrap (x.add y))
  | .sub => .ok (wrap (x.sub y))
  | .mul => .ok (wrap (x.mul y))
  | .div => .ok (wrap (x.div y))
  | .mod => .ok (wrap (x.rem y))
  | .idiv => binaryQuotient x y

/-- Two numbers in their common representation. -/
def numericArithmetic (op : ArithmeticOp) (a b : Number) : Except Error Atomic :=
  match Number.unify a b with
  | .int x y => integerArithmetic op x y
  | .dec x y => decimalArithmetic op x y
  | .single x y =>
    binaryArithmetic (fun z => float (z.convert .binary32)) op (x.convert .binary64)
      (y.convert .binary64)
  | .double x y => binaryArithmetic double op x y

/-! ### Durations -/

/-- The factor of a duration is a number. -/
def factor (n : Number) : Except Error Number :=
  if n.isNaN then .error (.ofCode .nanForDuration "NaN supplied as a duration operand") else .ok n

/-- The nearest whole number of months; a half goes up. -/
def wholeMonths (x : Double) : Except Error Atomic :=
  match x.roundHalfUp.whole? with
  | some n => (orThrow durationOverflow (Bounded.ofInt? n)).map yearMonthDuration
  | none => .error durationOverflow

/-- Months times or divided by a number, computed in floating point. -/
def scaleMonths (m : Signed32) (n : Number) (divide : Bool) : Except Error Atomic := do
  let f := (← factor n).toDouble
  let months : Double := .ofInt .binary64 m.val
  if divide then
    if f.isZero then .error durationOverflow else wholeMonths (months.div f)
  else
    if f.isInfinite then .error durationOverflow else wholeMonths (months.mul f)

/-- Seconds times or divided by a number, computed in decimals. -/
def scaleSeconds (s : Decimal) (n : Number) (divide : Bool) : Except Error Atomic := do
  let n ← factor n
  let f := n.toDouble
  if divide then
    if f.isZero then .error durationOverflow
    -- A finite duration vanishes beside an infinite divisor.
    else if f.isInfinite then .ok (dayTimeDuration .zero)
    else do
      let d ← orThrow durationOverflow n.toDecimal?
      (orThrow durationOverflow (s.div? d)).map dayTimeDuration
  else
    if f.isInfinite then .error durationOverflow
    else do
      let d ← orThrow durationOverflow n.toDecimal?
      (orThrow durationOverflow (s.mul? d)).map fun p => dayTimeDuration p.normalize

/-- A duration of both parts, which have one sign. -/
def joinDuration (months : Option Signed32) (seconds : Option Decimal) : Except Error Atomic :=
  match months, seconds with
  | some m, some s =>
    if m.val.sign * s.sign < 0 then .error mixedSigns else .ok (duration m s)
  | _, _ => .error durationOverflow

/-- The sum or difference of two durations, one of them of the general kind. -/
def generalDurations (op : ArithmeticOp) (a b : Atomic) : Option (Except Error Atomic) := do
  let t ← a.type.common? b.type
  match ← a.promote? t, ← b.promote? t, op with
  | duration m s, duration n t, .add => some (joinDuration (m.add? n) (s.add? t))
  | duration m s, duration n t, .sub => some (joinDuration (m.sub? n) (s.sub? t))
  | _, _, _ => none

/-- The quotient of two decimals that are durations. -/
def durationRatio (x y : Decimal) : Except Error Atomic :=
  if y.isZero then .error divisionByZero else (orThrow overflow (x.div? y)).map decimal

/-- Operators with durations alone, or with durations and numbers. -/
def durationArithmetic (op : ArithmeticOp) (a b : Atomic) : Option (Except Error Atomic) :=
  match a, b, op with
  | yearMonthDuration m, yearMonthDuration n, .add =>
    some ((orThrow durationOverflow (m.add? n)).map yearMonthDuration)
  | yearMonthDuration m, yearMonthDuration n, .sub =>
    some ((orThrow durationOverflow (m.sub? n)).map yearMonthDuration)
  | yearMonthDuration m, yearMonthDuration n, .div =>
    some (durationRatio (.ofSigned32 m) (.ofSigned32 n))
  | dayTimeDuration s, dayTimeDuration t, .add =>
    some ((orThrow durationOverflow (s.add? t)).map dayTimeDuration)
  | dayTimeDuration s, dayTimeDuration t, .sub =>
    some ((orThrow durationOverflow (s.sub? t)).map dayTimeDuration)
  | dayTimeDuration s, dayTimeDuration t, .div => some (durationRatio s t)
  | yearMonthDuration m, n, .mul => (Number.ofAtomic? n).map (scaleMonths m · false)
  | n, yearMonthDuration m, .mul => (Number.ofAtomic? n).map (scaleMonths m · false)
  | yearMonthDuration m, n, .div => (Number.ofAtomic? n).map (scaleMonths m · true)
  | dayTimeDuration s, n, .mul => (Number.ofAtomic? n).map (scaleSeconds s · false)
  | n, dayTimeDuration s, .mul => (Number.ofAtomic? n).map (scaleSeconds s · false)
  | dayTimeDuration s, n, .div => (Number.ofAtomic? n).map (scaleSeconds s · true)
  | _, _, _ =>
    if a.type.isDuration && b.type.isDuration then generalDurations op a b else none

/-! ### Dates and times -/

/-- A value shifted in time, or out of the calendar. -/
def shifted {α : Type} (t : Option α) (wrap : α → Atomic) : Outcome Atomic :=
  match t with
  | some t => .ok (wrap t)
  | none => .error (.error dateTimeOverflow)

/-- Brings a local date-time to UTC by its own timezone or that of the context. -/
def toUtc (t : DateTime) (zone : Option Offset) (ctx : ValueContext) : Outcome DateTime :=
  match t.toUtc? (ctx.zoneOf zone) with
  | some u => .ok u
  | none => .error .outOfCalendar

/-- The time between two local date-times, both brought to UTC. -/
def difference (ctx : ValueContext) (s t : DateTime) (sZone tZone : Option Offset) :
    Outcome Atomic := do
  let s ← toUtc s sZone ctx
  let t ← toUtc t tZone ctx
  match Decimal.ofNanos? (s.nanos - t.nanos) with
  | some seconds => return dayTimeDuration seconds
  | none => throw (.error durationOverflow)

/-- Shifts a date or time by a duration, forward or back. -/
def shift (a duration : Atomic) (sign : Int) : Option (Outcome Atomic) :=
  match a, duration with
  | dateTime t zone, yearMonthDuration m =>
    some (shifted (t.date.addMonths? (sign * m.val)) fun d => dateTime ⟨d, t.clock⟩ zone)
  | date d zone, yearMonthDuration m =>
    some (shifted (d.addMonths? (sign * m.val)) fun d => date d zone)
  | dateTime t zone, dayTimeDuration s =>
    some (shifted (t.shift? (sign * s.nanos)) fun t => dateTime t zone)
  | date d zone, dayTimeDuration s =>
    some (shifted ((DateTime.startOf d).shift? (sign * s.nanos)) fun t => date t.date zone)
  | time c zone, dayTimeDuration s => some (.ok (time (c.shift (sign * s.nanos)) zone))
  | _, _ => none

/-- The time between two dates or times of one type. -/
def between (a b : Atomic) (ctx : ValueContext) : Option (Outcome Atomic) :=
  match a, b with
  | dateTime s sZone, dateTime t tZone => some (difference ctx s t sZone tZone)
  | date d dZone, date e eZone =>
    some (difference ctx (.startOf d) (.startOf e) dZone eZone)
  | time c cZone, time d dZone =>
    some (difference ctx (.anchored c) (.anchored d) cZone dZone)
  | _, _ => none

/-- Operators with dates and times. -/
def temporalArithmetic (op : ArithmeticOp) (a b : Atomic) (ctx : ValueContext) :
    Option (Outcome Atomic) :=
  match op with
  -- A sum may have the duration on either side, a difference has it on the right.
  | .add => (shift a b 1).or (shift b a 1)
  | .sub => (shift a b (-1)).or (between a b ctx)
  | _ => none

/-! ### All operands -/

/-- The result of an operator on typed operands. -/
def typedArithmetic (op : ArithmeticOp) (a b : Atomic) (ctx : ValueContext) : Outcome Atomic :=
  match Number.ofAtomic? a, Number.ofAtomic? b with
  | some x, some y => numericArithmetic op x y
  | _, _ =>
    match durationArithmetic op a b with
    | some r => r
    | none =>
      (temporalArithmetic op a b ctx).getD
        (.error (.error (.undefinedOperator op.symbol a.type.text b.type.text)))

/-- The result of an operator. -/
def arithmetic (op : ArithmeticOp) (a b : Atomic) (ctx : ValueContext) : Outcome Atomic := do
  let a ← typedOperand a
  let b ← typedOperand b
  typedArithmetic op a b ctx

/-! ### Signs -/

/-- The opposite of a number or of a duration of one kind. -/
def minus (a : Atomic) : Except Error Atomic := do
  let a ← typedOperand a
  match Number.ofAtomic? a, a with
  | some (.int n), _ => (orThrow overflow n.neg?).map int
  | some (.dec d), _ => return decimal d.neg
  | some (.single x), _ => return float x.neg
  | some (.double x), _ => return double x.neg
  | none, yearMonthDuration m => (orThrow durationOverflow m.neg?).map yearMonthDuration
  | none, dayTimeDuration s => return dayTimeDuration s.neg
  | none, _ => throw (.ofCode .typeError ("unary '-' is not defined for " ++ a.type.text))

/-- A number or a duration of one kind, as it is. -/
def plus (a : Atomic) : Except Error Atomic := do
  let a ← typedOperand a
  match a with
  | yearMonthDuration _ | dayTimeDuration _ => return a
  | _ =>
    if a.isNumeric then return a
    else throw (.ofCode .typeError ("unary '+' is not defined for " ++ a.type.text))

end Atomic

end XPathData
