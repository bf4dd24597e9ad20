import XPathData.Proofs.Atomic.TemporalLiteral
import XPathData.Proofs.Bytewise.Literal

/-! # Casts by bytes

  The texts of strings and untyped values are cast to dates and times, to durations and to
  floating-point numbers by the readers that cut at offsets. The other casts cut no text.

  * `Bytewise.zoned_eq`, `Bytewise.readLiteral_eq` — literals as a whole
  * `Bytewise.cast_eq` — casts of all values to all types
-/

namespace XPathData.Bytewise

open Text Calendar Reading Atomic

/-! ### Dates and times -/

/-- Reads fields with a timezone behind them or without one. -/
def zoned {α : Type} (fields : List Char → Reading α) (s : List Char) :
    CheckedExcept LexicalFault (α × Option Offset) := do
  let (body, zone) ← takeZone (String.ofList (trim isUnicodeSpace s))
  return (← fields body, zone)

theorem zoned_eq {α : Type} (fields : List Char → Reading α) (s : List Char) :
    zoned fields s =
      liftM (takeZoneTrimmed s >>= fun p => fields p.1 >>= fun x => .ok (x, p.2)) := by
  rw [zoned, takeZone_eq, String.toList_ofList]
  exact outcome_bind _ fun p _ => outcome_bind _ fun x _ => rfl

/-! ### Durations -/

/-- Reads the components in two texts, those of the date and those of the time. -/
def readRuns (dateText timeText : List Char) : CheckedExcept LexicalFault DurationLiteral := do
  let date ← components ['Y', 'M', 'D'] (String.ofList dateText)
  let l ← (date.foldlM DurationLiteral.addDateComponent ⟨0, .zero, false, false⟩ :
    Reading DurationLiteral)
  let time ← components ['H', 'M', 'S'] (String.ofList timeText)
  let l ← (time.foldlM DurationLiteral.addTimeComponent l : Reading DurationLiteral)
  if date.isEmpty && time.isEmpty then throw .malformed else return l

/-- Reads the components after the `P`. -/
def readComponents (s : List Char) : CheckedExcept LexicalFault DurationLiteral :=
  match splitFirst 'T' s with
  | some (dateText, timeText) =>
    if timeText = [] then throw .malformed else readRuns dateText timeText
  | none => readRuns s []

/-- Only seconds may have a point, and there are none before the `T`. -/
theorem readRuns_eq (dateText timeText : List Char) :
    readRuns dateText timeText = liftM (do
      let date ← DurationLiteral.components false ['Y', 'M', 'D'] [] dateText
      let l ← date.foldlM DurationLiteral.addDateComponent ⟨0, .zero, false, false⟩
      let time ← DurationLiteral.components true ['H', 'M', 'S'] [] timeText
      let l ← time.foldlM DurationLiteral.addTimeComponent l
      if date.isEmpty && time.isEmpty then throw .malformed else return l :
        Reading DurationLiteral) := by
  have hdate : ['Y', 'M', 'D'].contains 'S' = false := rfl
  have htime : ['H', 'M', 'S'].contains 'S' = true := rfl
  unfold readRuns
  rw [components_eq, components_eq, String.toList_ofList, String.toList_ofList, hdate, htime]
  refine outcome_bind _ fun date _ => outcome_bind _ fun l _ => ?_
  refine outcome_bind _ fun time _ => outcome_bind _ fun l _ => ?_
  split <;> rfl

theorem readComponents_eq (s : List Char) :
    readComponents s = liftM (DurationLiteral.readComponents s) := by
  unfold readComponents DurationLiteral.readComponents
  cases splitFirst 'T' s with
  | none => exact readRuns_eq s []
  | some cut =>
    obtain ⟨dateText, timeText⟩ := cut
    dsimp only
    by_cases hempty : timeText = []
    · rw [if_pos hempty, if_pos (congrArg some hempty)]
      rfl
    · rw [if_neg hempty, if_neg (mt Option.some.inj hempty)]
      exact readRuns_eq dateText timeText

/-- Reads a duration literal without white space around it. -/
def readLiteral (s : List Char) : CheckedExcept LexicalFault DurationLiteral := do
  let (negative, rest) := match trim isUnicodeSpace s with
    | '-' :: rest => (true, rest)
    | rest => (false, rest)
  let l ← readComponents (← orMalformed (dropLead? ['P'] rest))
  return if negative then l.neg else l

theorem readLiteral_eq (s : List Char) : readLiteral s = liftM (DurationLiteral.read s) := by
  unfold readLiteral DurationLiteral.read
  refine outcome_bind _ fun body _ => ?_
  rw [readComponents_eq]
  exact outcome_bind _ fun l _ => rfl

/-- The months and seconds of a literal, if it is one of a type. -/
def partsOf (target : AtomicType) (l : DurationLiteral) : Reading (Int × Decimal) :=
  match target with
  | .yearMonthDuration =>
    if l.hasSeconds then .error .malformed
    else (orOutOfRange (Bounded.ofInt? l.months : Option Signed32)).map fun m => (m.val, .zero)
  | .dayTimeDuration => if l.hasMonths then .error .malformed else .ok (0, l.seconds)
  | _ => .ok (l.months, l.seconds)

theorem readDuration_eq (target : AtomicType) (s : List Char) :
    readDuration target s = DurationLiteral.read s >>= partsOf target := by
  unfold readDuration DurationLiteral.readMonths DurationLiteral.readDayTime partsOf
  cases DurationLiteral.read s with
  | error e => cases target <;> rfl
  | ok l =>
    obtain ⟨months, seconds, hasMonths, hasSeconds⟩ := l
    cases target with
    | yearMonthDuration =>
      cases hasSeconds with
      | true => rfl
      | false =>
        show orOutOfRange (Bounded.ofInt? months : Option Signed32) >>= _ =
          (orOutOfRange (Bounded.ofInt? months : Option Signed32)).map _
        cases orOutOfRange (Bounded.ofInt? months : Option Signed32) <;> rfl
    | dayTimeDuration => cases hasMonths <;> rfl
    | _ => rfl

/-! ### Casts -/

variable {a : Atomic} {target : AtomicType} {text : String}

/-- The fault of a literal as an error. -/
def ofLiteral {α : Type} (text : String) (target : AtomicType)
    (read : List Char → CheckedExcept LexicalFault α) : CheckedExcept Error α :=
  (read (literalOf text)).adapt (faultError text target)

/-- Casts a text to a type of dates or times. -/
def castZoned {α : Type} (text : String) (target : AtomicType) (fields : List Char → Reading α)
    (make : α → Option Offset → Atomic) : CheckedExcept Error Atomic := do
  let (x, zone) ← ofLiteral text target (zoned fields)
  return make x zone

/-- Casts a text to a type of durations; parts that the type lacks are left out. -/
def castDuration (text : String) (target : AtomicType) : CheckedExcept Error Atomic := do
  let (months, seconds) ← ofLiteral text target fun s => readLiteral s >>= (partsOf target ·)
  let months ← orThrow
    (.ofCode .durationOverflow ("duration overflow: '" ++ text ++ "'")) (Bounded.ofInt? months)
  match target with
  | .yearMonthDuration => return yearMonthDuration months
  | .dayTimeDuration => return dayTimeDuration seconds
  | _ => return duration months seconds

/-- Casts a text to a floating-point number. -/
def castBinary (f : BinaryFormat) (text : String) (target : AtomicType) :
    CheckedExcept Error (Binary f) := do
  orThrow (invalidForm text target) (← readBinary? f (String.ofList (literalOf text)))

/-- Casts the text of a string or an untyped value. -/
def castText (a : Atomic) (text : String) (target : AtomicType) (ctx : ValueContext) :
    CheckedExcept Error Atomic :=
  match target with
  | .double => double <$> castBinary .binary64 text target
  | .float => float <$> castBinary .binary32 text target
  | .duration | .yearMonthDuration | .dayTimeDuration => castDuration text target
  | .dateTime => castZoned text target readDateTimeFields dateTime
  | .date => castZoned text target readDateFields date
  | .time => castZoned text target readTimeFields time
  | .fragment k => castZoned text target (Fragment.readFields · k) fragment
  -- Casts to the other types cut no text.
  | _ => liftM (a.convert target ctx)

/-- Casts a value to a type. -/
def cast (a : Atomic) (target : AtomicType) (ctx : ValueContext) : CheckedExcept Error Atomic :=
  -- Neither refusing a type nor keeping a value cuts a text.
  if target.isAbstract ∨ a.type = target then liftM (a.cast target ctx)
  else
    match a.source? with
    | some text => castText a text target ctx
    | none => liftM (a.convert target ctx)

theorem map_liftM {ε α β : Type} (f : α → β) (r : Except ε α) :
    f <$> (liftM r : CheckedExcept ε α) = liftM (r.map f) := by
  cases r <;> rfl

theorem ofLiteral_eq {α : Type} {read : List Char → CheckedExcept LexicalFault α}
    {read' : List Char → Reading α} (h : ∀ s, read s = liftM (read' s)) :
    ofLiteral text target read = liftM (ofReading text target (read' (literalOf text))) := by
  rw [ofLiteral, h]
  cases read' (literalOf text) <;> rfl

theorem readDate_eq (s : List Char) :
    readDate s =
      takeZoneTrimmed s >>= fun p => readDateFields p.1 >>= fun d => .ok (d, p.2) := rfl

theorem read_eq (k : FragmentKind) (s : List Char) :
    Fragment.read k s =
      takeZoneTrimmed s >>= fun p => Fragment.readFields p.1 k >>= fun f => .ok (f, p.2) := rfl

/-- A cast that reads fields with a timezone, if the type is read so. -/
theorem castZoned_eq {α : Type} {fields : List Char → Reading α}
    {read : List Char → Reading (α × Option Offset)}
    (h : ∀ s, read s = takeZoneTrimmed s >>= fun p => fields p.1 >>= fun x => .ok (x, p.2))
    (make : α → Option Offset → Atomic) :
    castZoned text target fields make =
      liftM ((ofReading text target (read (literalOf text))).map fun (x, zone) => make x zone) := by
  rw [castZoned, ofLiteral_eq (zoned_eq fields), ← h]
  cases read (literalOf text) <;> rfl

theorem castBinary_eq (f : BinaryFormat) :
    castBinary f text target =
      liftM (orThrow (invalidForm text target) (Atomic.readBinary? f (literalOf text))) := by
  rw [castBinary, readBinary?_eq, String.toList_ofList]
  rfl

theorem castDuration_eq (hsource : a.source? = some text) :
    castDuration text target = liftM (a.castDuration target) := by
  have hread (s : List Char) : readLiteral s >>= (partsOf target ·) =
      liftM (Atomic.readDuration target s) := by
    rw [readDuration_eq, readLiteral_eq]
    exact outcome_bind _ fun l _ => rfl
  have hparts : a.durationParts target =
      ofReading text target (Atomic.readDuration target (literalOf text)) >>= fun p =>
        orThrow (.ofCode .durationOverflow ("duration overflow: '" ++ text ++ "'"))
          (Bounded.ofInt? p.1) >>= fun months => .ok (months, p.2) := by
    cases a with
    | untyped s | string k s =>
      cases hsource
      rfl
    | _ => cases hsource
  rw [castDuration, ofLiteral_eq hread, Atomic.castDuration, hparts]
  cases ofReading text target (Atomic.readDuration target (literalOf text)) with
  | error e => rfl
  | ok p =>
    show (liftM (orThrow _ (Bounded.ofInt? p.1)) >>= _ : CheckedExcept Error Atomic) =
      liftM ((orThrow _ (Bounded.ofInt? p.1) >>= _) >>= _ : Except Error Atomic)
    cases orThrow (.ofCode .durationOverflow ("duration overflow: '" ++ text ++ "'"))
        (Bounded.ofInt? p.1 : Option Signed32) with
    | error e => rfl
    | ok months => cases target <;> rfl

theorem castText_eq (hsource : a.source? = some text) (ctx : ValueContext) :
    castText a text target ctx = liftM (a.convert target ctx) := by
  cases a with
  | untyped s | string k s =>
    cases hsource
    cases target with
    | double | float =>
      rw [castText, castBinary_eq]
      exact map_liftM _ _
    | duration | yearMonthDuration | dayTimeDuration => exact castDuration_eq rfl
    | dateTime => exact castZoned_eq readDateTime_eq dateTime
    | date => exact castZoned_eq readDate_eq date
    | time => exact castZoned_eq readTime_eq time
    | fragment k => exact castZoned_eq (read_eq k) fragment
    | _ => rfl
  | _ => cases hsource

/-- No offset is wrong in any cast, and what the value is cast to is the same. -/
theorem cast_eq (a : Atomic) (target : AtomicType) (ctx : ValueContext) :
    cast a target ctx = liftM (a.cast target ctx) := by
  unfold cast
  split
  · rfl
  · next hkept =>
    have hconvert : a.cast target ctx = a.convert target ctx := by
      rw [Atomic.cast, if_neg fun h => hkept (.inl h), if_neg fun h => hkept (.inr h)]
    rw [hconvert]
    split
    · next text hsource => exact castText_eq hsource ctx
    · rfl

end XPathData.Bytewise
