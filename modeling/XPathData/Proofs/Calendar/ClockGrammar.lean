import XPathData.Proofs.Calendar.Grammar

/-! # The grammar of times

  A time is written as two fields of two digits and the seconds, which may have a fraction. The
  hour 24 is the end of the day, with nothing behind it; a date with it is the one of the next day.
  The fraction is cut off behind the nanoseconds before the hour is looked at.

  * `Calendar.ClockText`, `Calendar.DateTimeText` — what is written
  * `Calendar.readClockFields_eq_ok_iff`, `Calendar.readDateTimeFields_eq_ok_iff` — what is read
-/

namespace XPathData

open Text Reading

/-- A time is found for its fields and for no others. -/
theorem Clock.ofFields?_eq_some_iff {hour minute second nanos : Nat} {c : Clock} :
    ofFields? hour minute second nanos = some c ↔
      (hour < 24 ∧ minute < 60 ∧ second < 60 ∧ nanos < nanosPerSecond) ∧
        c.nanos = (hour * 3600 + minute * 60 + second) * nanosPerSecond + nanos := by
  constructor
  · intro h
    unfold ofFields? at h
    split at h
    · next hfields =>
      cases h
      exact ⟨hfields, rfl⟩
    · cases h
  · rintro ⟨hfields, hnanos⟩
    rw [ofFields?, dif_pos hfields]
    exact congrArg some (ext_nanos hnanos.symm)

namespace Calendar

variable {s : List Char} {d : Date}

/-! ### Times -/

/-- The fraction of a second as it is written: nothing, or a point and at least one digit. It
    denotes nanoseconds; what is less than one of them is cut off. -/
inductive FractionText : List Char → Nat → Prop where
  | none : FractionText [] 0
  | point {digits : List Char} (hne : digits ≠ []) (hdigits : digits.all isDigit = true) :
    FractionText ('.' :: digits) (readDigits digits * nanosPerSecond / 10 ^ digits.length)

theorem FractionText.isSolid {nanos : Nat} (h : FractionText s nanos) : isSolid s = true := by
  cases h with
  | none => rfl
  | @point digits _ hdigits =>
    have hplain := all_isPlain_of_all_isDigit hdigits
    exact isSolid_of_all_isPlain (s := '.' :: digits) hplain

/-- Seconds as they are written: two digits, and perhaps a fraction. -/
def SecondsText (s : List Char) (second nanos : Nat) : Prop :=
  ∃ field fraction, s = field ++ fraction ∧ IsField field second ∧ FractionText fraction nanos

/-- A time of day as it is written: hour, minute and seconds. -/
def TimeText (s : List Char) (hour minute second nanos : Nat) : Prop :=
  ∃ h m rest, s = h ++ ':' :: (m ++ ':' :: rest) ∧ IsField h hour ∧ IsField m minute ∧
    SecondsText rest second nanos

/-- A time of day and what it denotes. The hour 24 is the end of the day, which is midnight, if
    minute, second and nanoseconds are zero. -/
inductive ClockText (s : List Char) : Clock → Bool → Prop where
  | ofDay {hour minute second nanos : Nat} {c : Clock}
    (htext : TimeText s hour minute second nanos)
    (hfields : hour < 24 ∧ minute < 60 ∧ second < 60)
    (hc : c.nanos = (hour * 3600 + minute * 60 + second) * nanosPerSecond + nanos) :
    ClockText s c false
  | endOfDay (htext : TimeText s 24 0 0 0) : ClockText s .midnight true

/-- The first nine digits of a fraction, filled up with zeros, are its nanoseconds. -/
theorem readFraction_eq {digits : List Char} (h : digits.all isDigit = true) :
    readFraction digits = readDigits digits * nanosPerSecond / 10 ^ digits.length := by
  have hnanos : nanosPerSecond = 10 ^ 9 := rfl
  unfold readFraction
  rw [readDigits_append, readDigits_zeros, List.length_replicate, Nat.add_zero, hnanos]
  rcases Nat.le_total digits.length 9 with hle | hle
  · have hpow : 10 ^ 9 = 10 ^ (9 - digits.length) * 10 ^ digits.length := by
      rw [← Nat.pow_add, Nat.sub_add_cancel hle]
    rw [List.take_of_length_le hle, hpow, ← Nat.mul_assoc,
      Nat.mul_div_cancel _ (Nat.pow_pos (by decide))]
  · -- The digits behind the ninth are less than one nanosecond.
    have hsplit := readDigits_append (digits.take 9) (digits.drop 9)
    have hrest : (digits.drop 9).all isDigit = true := by
      rw [List.all_eq_true] at h ⊢
      exact fun c hc => h c (List.mem_of_mem_drop hc)
    have hlt := readDigits_lt hrest
    have hpow : 10 ^ digits.length = 10 ^ (digits.length - 9) * 10 ^ 9 := by
      rw [← Nat.pow_add, Nat.sub_add_cancel hle]
    rw [List.take_append_drop, List.length_drop] at hsplit
    rw [List.length_drop] at hlt
    rw [Nat.sub_eq_zero_of_le hle, Nat.pow_zero, Nat.mul_one, hpow,
      Nat.mul_div_mul_right _ _ (by decide), hsplit, Nat.mul_comm,
      Nat.mul_add_div (Nat.pow_pos (by decide)), Nat.div_eq_of_lt hlt, Nat.add_zero]

theorem FractionText.lt {nanos : Nat} (h : FractionText s nanos) : nanos < nanosPerSecond := by
  cases h with
  | none => decide
  | point hne hdigits =>
    refine Nat.div_lt_of_lt_mul ?_
    exact Nat.mul_lt_mul_of_pos_right (readDigits_lt hdigits) (by decide)

theorem TimeText.nanos_lt {hour minute second nanos : Nat}
    (h : TimeText s hour minute second nanos) : nanos < nanosPerSecond := by
  obtain ⟨_, _, _, -, -, -, _, _, -, -, hfraction⟩ := h
  exact hfraction.lt

/-- Seconds are two digits, and the digits behind the first point. -/
def readSeconds (s : List Char) : Reading (Nat × Nat) := do
  let (second, fraction) := match splitFirst '.' s with
    | some (second, fraction) => (second, some fraction)
    | none => (s, none)
  let second ← readTwoDigits second
  let digits := fraction.getD []
  if !digits.all isDigit || fraction == some [] then throw .malformed
  return (second, readFraction digits)

/-- The time with some fields, and whether it ends the day. -/
def clockOf (hour minute second nanos : Nat) : Reading (Clock × Bool) :=
  if hour = 24 then
    if minute = 0 ∧ second = 0 ∧ nanos = 0 then .ok (.midnight, true) else .error .outOfRange
  else orOutOfRange (Clock.ofFields? hour minute second nanos) >>= fun c => .ok (c, false)

/-- A time is cut at its first two colons, and what is left are the seconds. -/
theorem readClockFields_eq (s : List Char) :
    readClockFields s = (do
      let (hour, rest) ← orMalformed (splitFirst ':' s)
      let (minute, rest) ← orMalformed (splitFirst ':' rest)
      let hour ← readTwoDigits hour
      let minute ← readTwoDigits minute
      let (second, nanos) ← readSeconds rest
      clockOf hour minute second nanos) := by
  refine congrArg (orMalformed (splitFirst ':' s) >>= ·) (funext fun (hour, rest) => ?_)
  refine congrArg (orMalformed (splitFirst ':' rest) >>= ·) (funext fun (minute, rest) => ?_)
  refine congrArg (readTwoDigits hour >>= ·) (funext fun hour => ?_)
  refine congrArg (readTwoDigits minute >>= ·) (funext fun minute => ?_)
  -- The seconds are read alike with a point and without one.
  have hseconds (second : List Char) (fraction : Option (List Char)) :
      (readTwoDigits second >>= fun second =>
        if !(fraction.getD []).all isDigit || fraction == some [] then .error .malformed
        else clockOf hour minute second (readFraction (fraction.getD []))) =
      (readTwoDigits second >>= fun second =>
        if !(fraction.getD []).all isDigit || fraction == some [] then .error .malformed
        else .ok (second, readFraction (fraction.getD []))) >>= fun (second, nanos) =>
          clockOf hour minute second nanos := by
    cases readTwoDigits second with
    | error e => rfl
    | ok second =>
      dsimp only [bind, Except.bind]
      split <;> rfl
  unfold readSeconds
  cases splitFirst '.' rest with
  | none => exact hseconds rest none
  | some cut => exact hseconds cut.1 (some cut.2)

theorem readSeconds_eq_ok_iff {second nanos : Nat} :
    readSeconds s = .ok (second, nanos) ↔ SecondsText s second nanos := by
  constructor
  · intro h
    unfold readSeconds at h
    split at h
    next front fraction hcut =>
      obtain ⟨n, hn, h⟩ := bind_eq_ok_iff.1 h
      dsimp only at h
      split at h
      · cases h
      · next hform =>
        cases h
        refine ⟨front, ?_⟩
        split at hcut
        · next before after hsplit =>
          cases hcut
          have hdigits : after.all isDigit = true ∧ after ≠ [] := by simpa using hform
          refine ⟨'.' :: after, splitFirst_eq_some hsplit, readTwoDigits_eq_ok_iff.1 hn, ?_⟩
          rw [Option.getD_some, readFraction_eq hdigits.1]
          exact .point hdigits.2 hdigits.1
        · cases hcut
          exact ⟨[], (List.append_nil s).symm, readTwoDigits_eq_ok_iff.1 hn, .none⟩
  · rintro ⟨field, fraction, rfl, hfield, hfraction⟩
    have hpoint : '.' ∉ field := hfield.not_mem (by decide)
    cases hfraction with
    | none =>
      simp only [readSeconds, List.append_nil, splitFirst_of_not_mem hpoint,
        readTwoDigits_eq_ok_iff.2 hfield]
      rfl
    | @point digits hne hdigits =>
      have hform : ¬((!digits.all isDigit || some digits == some []) = true) := by
        simpa [hdigits] using hne
      simp only [readSeconds, splitFirst_append hpoint, readTwoDigits_eq_ok_iff.2 hfield,
        Option.getD_some, bind, Except.bind, if_neg hform, readFraction_eq hdigits]
      rfl

theorem clockOf_eq_ok_iff {hour minute second nanos : Nat} {c : Clock} {endOfDay : Bool}
    (hnanos : nanos < nanosPerSecond) :
    clockOf hour minute second nanos = .ok (c, endOfDay) ↔
      ((hour < 24 ∧ minute < 60 ∧ second < 60) ∧
        c.nanos = (hour * 3600 + minute * 60 + second) * nanosPerSecond + nanos ∧
          endOfDay = false) ∨
      ((hour = 24 ∧ minute = 0 ∧ second = 0 ∧ nanos = 0) ∧ c = .midnight ∧ endOfDay = true) := by
  unfold clockOf
  by_cases hhour : hour = 24
  · rw [if_pos hhour]
    split
    · next hzero => simp [hhour, hzero, eq_comm]
    · next hzero => simp [hhour, hzero]
  · rw [if_neg hhour, bind_eq_ok_iff]
    simp only [orOutOfRange_eq_ok_iff, Clock.ofFields?_eq_some_iff, Except.ok.injEq,
      Prod.mk.injEq]
    constructor
    · rintro ⟨_, ⟨hfields, hc⟩, rfl, rfl⟩
      exact .inl ⟨⟨hfields.1, hfields.2.1, hfields.2.2.1⟩, hc, rfl⟩
    · rintro (⟨hfields, hc, rfl⟩ | ⟨⟨hend, -⟩, -⟩)
      · exact ⟨c, ⟨⟨hfields.1, hfields.2.1, hfields.2.2, hnanos⟩, hc⟩, rfl, rfl⟩
      · exact absurd hend hhour

/-- As the fields have no colons, a time is cut between them. -/
theorem readClockFields_of_text {hour minute second nanos : Nat}
    (h : TimeText s hour minute second nanos) :
    readClockFields s = clockOf hour minute second nanos := by
  have hcolon : isDigit ':' = false := by decide
  obtain ⟨_, _, _, rfl, hh, hm, hrest⟩ := h
  simp only [readClockFields_eq, splitFirst_append (hh.not_mem hcolon),
    splitFirst_append (hm.not_mem hcolon), orMalformed, bind, Except.bind,
    readTwoDigits_eq_ok_iff.2 hh, readTwoDigits_eq_ok_iff.2 hm, readSeconds_eq_ok_iff.2 hrest]

theorem readClockFields_eq_ok_iff {c : Clock} {endOfDay : Bool} :
    readClockFields s = .ok (c, endOfDay) ↔ ClockText s c endOfDay := by
  rw [readClockFields_eq]
  constructor
  · intro h
    obtain ⟨⟨hour, rest⟩, hhour, h⟩ := bind_eq_ok_iff.1 h
    obtain ⟨⟨minute, rest'⟩, hminute, h⟩ := bind_eq_ok_iff.1 h
    obtain ⟨hh, hhours, h⟩ := bind_eq_ok_iff.1 h
    obtain ⟨mm, hminutes, h⟩ := bind_eq_ok_iff.1 h
    obtain ⟨⟨second, nanos⟩, hsecond, h⟩ := bind_eq_ok_iff.1 h
    have htext : TimeText s hh mm second nanos := by
      refine ⟨hour, minute, rest', ?_, readTwoDigits_eq_ok_iff.1 hhours,
        readTwoDigits_eq_ok_iff.1 hminutes, readSeconds_eq_ok_iff.1 hsecond⟩
      rw [splitFirst_eq_some (orMalformed_eq_ok_iff.1 hhour),
        splitFirst_eq_some (orMalformed_eq_ok_iff.1 hminute)]
    rcases (clockOf_eq_ok_iff htext.nanos_lt).1 h with
      ⟨hfields, hc, rfl⟩ | ⟨⟨rfl, rfl, rfl, rfl⟩, rfl, rfl⟩
    · exact .ofDay htext hfields hc
    · exact .endOfDay htext
  · intro h
    rw [← readClockFields_eq]
    cases h with
    | ofDay htext hfields hc =>
      rw [readClockFields_of_text htext]
      exact (clockOf_eq_ok_iff htext.nanos_lt).2 (.inl ⟨hfields, hc, rfl⟩)
    | endOfDay htext =>
      rw [readClockFields_of_text htext]
      rfl

/-- A time ends with its seconds, before which there is no sign, or with a fraction. -/
theorem TimeText.unzoned {hour minute second nanos : Nat} (h : TimeText s hour minute second nanos)
    (p : List Char) : Unzoned (p ++ s) := by
  obtain ⟨h, m, _, rfl, hh, hm, field, _, rfl, hfield, hfraction⟩ := h
  cases hfraction with
  | none =>
    have htext : p ++ (h ++ ':' :: (m ++ ':' :: (field ++ []))) =
        (p ++ h) ++ ':' :: (m ++ ':' :: field) := by
      simp
    rw [htext]
    refine ⟨?_, ?_⟩
    · rw [List.append_cons, ← List.append_assoc, List.append_cons]
      exact getLast?_plain _ hfield.ne_nil hfield.all_isPlain
    · exact zoneParts?_digits _ ':' hm.length_eq hfield.length_eq hm.all_isPlain hfield.all_isPlain
  | @point digits hne hdigits =>
    have htext : p ++ (h ++ ':' :: (m ++ ':' :: (field ++ '.' :: digits))) =
        (p ++ h ++ ':' :: m ++ [':']) ++ (field ++ '.' :: digits) := by
      simp
    rw [htext]
    refine unzoned_plain _ ?_ ?_
    · rw [List.length_append, hfield.length_eq, List.length_cons]
      omega
    · rw [List.all_append, List.all_cons, hfield.all_isPlain, all_isPlain_of_all_isDigit hdigits]
      rfl

theorem TimeText.isSolid {hour minute second nanos : Nat}
    (h : TimeText s hour minute second nanos) : isSolid s = true := by
  obtain ⟨h, m, _, rfl, hh, hm, field, _, rfl, hfield, hfraction⟩ := h
  have hcolon : isUnicodeSpace ':' = false := by decide
  simp [isSolid_of_all_isPlain hh.all_isPlain, isSolid_of_all_isPlain hm.all_isPlain,
    isSolid_of_all_isPlain hfield.all_isPlain, hfraction.isSolid, hcolon]

/-- Each time has its fields written. -/
theorem ClockText.exists_timeText {c : Clock} {endOfDay : Bool} (h : ClockText s c endOfDay) :
    ∃ hour minute second nanos, TimeText s hour minute second nanos := by
  cases h with
  | ofDay htext => exact ⟨_, _, _, _, htext⟩
  | endOfDay htext => exact ⟨_, _, _, _, htext⟩

theorem ClockText.unzoned {c : Clock} {endOfDay : Bool} (h : ClockText s c endOfDay)
    (p : List Char) : Unzoned (p ++ s) := by
  obtain ⟨_, _, _, _, htext⟩ := h.exists_timeText
  exact htext.unzoned p

theorem ClockText.isSolid {c : Clock} {endOfDay : Bool} (h : ClockText s c endOfDay) :
    isSolid s = true := by
  obtain ⟨_, _, _, _, htext⟩ := h.exists_timeText
  exact htext.isSolid

/-! ### Dates with times -/

/-- A date-time as it is written: a date, a `T` and a time. The end of a day is the start of the
    next one. -/
def DateTimeText (s : List Char) (t : DateTime) : Prop :=
  ∃ date time d endOfDay, s = date ++ 'T' :: time ∧ DateText date d ∧
    ClockText time t.clock endOfDay ∧
      t.date.dayNumber = d.dayNumber + if endOfDay then 1 else 0

theorem DateTimeText.unzoned {u : DateTime} (h : DateTimeText s u) : Unzoned s := by
  obtain ⟨date, time, d, endOfDay, rfl, -, htime, -⟩ := h
  rw [List.append_cons]
  exact htime.unzoned _

theorem DateTimeText.isSolid {u : DateTime} (h : DateTimeText s u) : isSolid s = true := by
  obtain ⟨date, time, d, endOfDay, rfl, hdate, htime, -⟩ := h
  simp [isSolid_of_all_isPlain hdate.all_isPlain, htime.isSolid, isUnicodeSpace]

/-- The day behind a date is the one with the next number. -/
theorem addDays?_eq_some_iff {d e : Date} {n : Int} :
    d.addDays? n = some e ↔ e.dayNumber = d.dayNumber + n := by
  refine ⟨Date.dayNumber_of_ofDayNumber?, fun h => ?_⟩
  rw [Date.addDays?, ← h]
  exact e.ofDayNumber?_dayNumber

/-- The day that a time of a date belongs to; the end of the day belongs to the next one. -/
def dayOf (d : Date) (endOfDay : Bool) : Reading Date :=
  if endOfDay then orOutOfRange (d.addDays? 1) else .ok d

theorem dayOf_eq_ok_iff {d e : Date} {endOfDay : Bool} :
    dayOf d endOfDay = .ok e ↔ e.dayNumber = d.dayNumber + if endOfDay then 1 else 0 := by
  cases endOfDay with
  | true =>
    rw [dayOf, if_pos rfl, if_pos rfl, orOutOfRange_eq_ok_iff]
    exact addDays?_eq_some_iff
  | false =>
    rw [dayOf, if_neg Bool.false_ne_true, if_neg Bool.false_ne_true, Int.add_zero]
    constructor
    · rintro ⟨⟩
      rfl
    · intro h
      have hsame : some e = some d := by
        rw [← e.ofDayNumber?_dayNumber, h, d.ofDayNumber?_dayNumber]
      cases hsame
      rfl

/-- The fields of a date-time are a date, and a time that may end it. -/
def readDateTimeFields (s : List Char) : Reading DateTime := do
  let (date, time) ← orMalformed (splitFirst 'T' s)
  let date ← readDateFields date
  let (clock, endOfDay) ← readClockFields time
  let date ← dayOf date endOfDay
  return ⟨date, clock⟩

theorem readDateTime_eq (s : List Char) :
    readDateTime s =
      takeZoneTrimmed s >>= fun p => readDateTimeFields p.1 >>= fun t => .ok (t, p.2) := by
  refine congrArg (takeZoneTrimmed s >>= ·) (funext fun (body, zone) => ?_)
  dsimp only [readDateTimeFields]
  cases orMalformed (splitFirst 'T' body) with
  | error e => rfl
  | ok cut =>
    dsimp only [bind, Except.bind]
    cases readDateFields cut.1 with
    | error e => rfl
    | ok d =>
      dsimp only
      cases readClockFields cut.2 with
      | error e => rfl
      | ok r =>
        obtain ⟨clock, endOfDay⟩ := r
        cases endOfDay with
        | false => rfl
        | true =>
          have hday : dayOf d true = orOutOfRange (d.addDays? 1) := rfl
          dsimp only
          rw [hday, if_pos rfl]
          cases d.addDays? 1 <;> rfl

theorem readDateTimeFields_eq_ok_iff {u : DateTime} :
    readDateTimeFields s = .ok u ↔ DateTimeText s u := by
  constructor
  · intro h
    obtain ⟨⟨date, time⟩, hcut, h⟩ := bind_eq_ok_iff.1 h
    obtain ⟨d, hd, h⟩ := bind_eq_ok_iff.1 h
    obtain ⟨⟨clock, endOfDay⟩, hclock, h⟩ := bind_eq_ok_iff.1 h
    obtain ⟨e, he, h⟩ := bind_eq_ok_iff.1 h
    cases h
    exact ⟨date, time, d, endOfDay, splitFirst_eq_some (orMalformed_eq_ok_iff.1 hcut),
      readDateFields_eq_ok_iff.1 hd, readClockFields_eq_ok_iff.1 hclock, dayOf_eq_ok_iff.1 he⟩
  · rintro ⟨date, time, d, endOfDay, rfl, hdate, htime, hday⟩
    have hmark : 'T' ∉ date := by
      intro hmem
      exact absurd (List.all_eq_true.1 hdate.all_isPlain 'T' hmem) (by decide)
    simp only [readDateTimeFields, splitFirst_append hmark, orMalformed, bind, Except.bind,
      readDateFields_eq_ok_iff.2 hdate, readClockFields_eq_ok_iff.2 htime, dayOf_eq_ok_iff.2 hday]
    rfl

end Calendar

end XPathData
