import XPathData.Calendar.Text
import XPathData.Proofs.Calendar.DayNumber
import XPathData.Proofs.Text.Digits

/-! # Dates and times read back

  What is written of a date or a time is read as the same fields again, and the timezone is found
  at the end and nowhere else. Only the year zero is written and not read.

  * `Calendar.takeZone_writeZone`, `Calendar.takeZone_none` — the timezone at the end of a text
  * `Calendar.readYear_writeYear` — years, of any length
  * `Calendar.readDateFields_writeDate`, `Calendar.readClockFields_writeClock` — dates and times
-/

namespace XPathData

open Text Reading

/-! ### Characters -/

namespace Calendar

/-- A character of dates and fractions, which does not belong to a timezone. -/
def isPlain (c : Char) : Bool := isDigit c || c == '-' || c == '.'

/-- Text without white space. -/
def isSolid (s : List Char) : Bool := s.all fun c => !isUnicodeSpace c

@[simp] theorem isSolid_cons (c : Char) (s : List Char) :
    isSolid (c :: s) = (!isUnicodeSpace c && isSolid s) := rfl

@[simp] theorem isSolid_append (s t : List Char) : isSolid (s ++ t) = (isSolid s && isSolid t) :=
  List.all_append

theorem isPlain_cases {c : Char} (h : isPlain c = true) : isDigit c = true ∨ c = '-' ∨ c = '.' := by
  simpa only [isPlain, Bool.or_eq_true, beq_iff_eq, or_assoc] using h

theorem all_isPlain_of_all_isDigit {s : List Char} (h : s.all isDigit = true) :
    s.all isPlain = true := by
  rw [List.all_eq_true] at h ⊢
  intro c hc
  unfold isPlain
  rw [h c hc]
  rfl

theorem isSolid_of_all_isPlain {s : List Char} (h : s.all isPlain = true) : isSolid s = true := by
  unfold isSolid
  rw [List.all_eq_true] at h ⊢
  intro c hc
  rcases isPlain_cases (h c hc) with hdigit | rfl | rfl
  · rw [isUnicodeSpace_of_isDigit hdigit]
    rfl
  · decide
  · decide

theorem utf8Size_of_isPlain {c : Char} (h : isPlain c = true) : c.utf8Size = 1 := by
  have hle : c.toNat ≤ 127 := by
    rcases isPlain_cases h with hdigit | rfl | rfl
    · have hc := isDigit_iff.1 hdigit
      omega
    · decide
    · decide
  unfold Char.utf8Size
  exact if_pos hle

theorem utf8Size_of_all_isPlain {s : List Char} (h : s.all isPlain = true) :
    utf8Size s = s.length := by
  induction s with
  | nil => rfl
  | cons c s ih =>
    rw [List.all_cons, Bool.and_eq_true] at h
    show c.utf8Size + utf8Size s = s.length + 1
    rw [utf8Size_of_isPlain h.1, ih h.2, Nat.add_comm]

theorem ne_of_isPlain {c d : Char} (hc : isPlain c = true) (hd : isPlain d = false) : c ≠ d := by
  rintro rfl
  rw [hc] at hd
  cases hd

/-! ### Two digits -/

theorem readTwoDigits_eq {s : List Char} (hlength : s.length = 2) (h : s.all isDigit = true) :
    readTwoDigits s = .ok (readDigits s) := by
  match s, hlength with
  | [a, b], _ =>
    simp only [List.all_cons, List.all_nil, Bool.and_true] at h
    unfold readTwoDigits
    exact if_pos h

theorem length_writeField {n : Nat} (h : n < 100) : (writeField n).length = 2 :=
  length_writePadded (by decide) h

theorem writeField_all_isDigit (n : Nat) : (writeField n).all isDigit = true :=
  writePadded_all_isDigit 2 n

@[simp] theorem writeField_all_isPlain (n : Nat) : (writeField n).all isPlain = true :=
  all_isPlain_of_all_isDigit (writeField_all_isDigit n)

@[simp] theorem isSolid_writeField (n : Nat) : isSolid (writeField n) = true :=
  isSolid_of_all_isPlain (writeField_all_isPlain n)

theorem readTwoDigits_writeField {n : Nat} (h : n < 100) :
    readTwoDigits (writeField n) = .ok n := by
  rw [readTwoDigits_eq (length_writeField h) (writeField_all_isDigit n)]
  exact congrArg Except.ok (readDigits_writePadded 2 n)

theorem not_mem_writeField {c : Char} (hc : isDigit c = false) (n : Nat) : c ∉ writeField n := by
  intro h
  rw [List.all_eq_true.1 (writeField_all_isDigit n) c h] at hc
  cases hc

/-! ### Years -/

/-- A year that a literal can have. -/
def IsYear (y : Int) : Prop := y ≠ 0 ∧ -0x80000000 ≤ y ∧ y ≤ 0x7FFFFFFF

/-- No year has a zero before four digits. -/
theorem writePadded_four_head (m : Nat) (h : 4 < (writePadded 4 m).length) :
    (writePadded 4 m).head? ≠ some '0' := by
  have hlong : 4 < (writeNat m).length := by
    unfold writePadded at h
    rw [List.length_append, List.length_replicate] at h
    omega
  have hm : 0 < m := by
    apply Nat.pos_of_ne_zero
    rintro rfl
    unfold writeNat at hlong
    simp at hlong
  unfold writePadded
  rw [Nat.sub_eq_zero_of_le (Nat.le_of_lt hlong)]
  exact head?_writeNat hm

/-- A number with 32 bits, if it is not zero. -/
def yearOf (n : Int) : Reading Int := do
  let year : Signed32 ← orOutOfRange (Bounded.ofInt? n)
  if year.val = 0 then throw .outOfRange
  return year.val

/-- A sign and at least four digits, of which the first is no needless zero, are a year. -/
theorem readYear_eq (negative : Bool) {digits : List Char} (hdigits : digits.all isDigit = true)
    (hlength : 4 ≤ digits.length) (hhead : 4 < digits.length → digits.head? ≠ some '0') :
    readYear ((if negative then ['-'] else []) ++ digits) =
      yearOf (if negative then -(readDigits digits : Int) else readDigits digits) := by
  have hform : (digits.length < 4 || !digits.all isDigit ||
      (decide (4 < digits.length) && digits.head? == some '0')) = false := by
    rw [hdigits]
    simp only [Bool.not_true, Bool.or_false, Bool.or_eq_false_iff, decide_eq_false_iff_not,
      Nat.not_lt, Bool.and_eq_false_imp, decide_eq_true_eq, beq_eq_false_iff_ne]
    exact ⟨hlength, hhead⟩
  unfold readYear yearOf
  cases negative with
  | true =>
    simp only [↓reduceIte, List.cons_append, List.nil_append, hform]
    rfl
  | false =>
    -- The first digit is no minus.
    match digits, hlength with
    | c :: rest, _ =>
      have hminus : c ≠ '-' := by
        rw [List.all_cons, Bool.and_eq_true] at hdigits
        exact ne_of_isDigit hdigits.1 (by decide)
      simp only [Bool.false_eq_true, ↓reduceIte, List.nil_append]
      split
      · next hcons => exact absurd (List.cons.inj hcons).1 hminus
      · simp only [hform]
        rfl

theorem readYear_writeYear (y : Int) : readYear (writeYear y) = yearOf y := by
  have hread := readYear_eq (decide (y < 0)) (writePadded_all_isDigit 4 y.natAbs)
    (le_length_writePadded 4 y.natAbs) (writePadded_four_head y.natAbs)
  simp only [decide_eq_true_eq, readDigits_writePadded] at hread
  unfold writeYear
  rw [hread]
  congr 1
  split <;> omega

theorem yearOf_eq {y : Int} (h : IsYear y) : yearOf y = .ok y := by
  obtain ⟨hzero, hlow, hhigh⟩ := h
  have hfits : (Bounded.ofInt? y : Option Signed32) = some ⟨y, hlow, hhigh⟩ :=
    Bounded.ofInt?_eq_some_iff.2 rfl
  simp only [yearOf, hfits, orOutOfRange, bind, Except.bind, pure, Except.pure, if_neg hzero]

@[simp] theorem writeYear_all_isPlain (y : Int) : (writeYear y).all isPlain = true := by
  have hdigits := all_isPlain_of_all_isDigit (writePadded_all_isDigit 4 y.natAbs)
  unfold writeYear
  split
  · rw [List.all_append, hdigits]
    rfl
  · exact hdigits

theorem le_length_writeYear (y : Int) : 4 ≤ (writeYear y).length := by
  unfold writeYear
  rw [List.length_append]
  exact Nat.le_add_left_of_le (le_length_writePadded 4 y.natAbs)

/-! ### Timezones -/

/-- Full minutes, and not more than fourteen hours: the offsets that literals have. -/
def IsZone (o : Offset) : Prop := o.val % 60 = 0 ∧ o.val.natAbs ≤ 50400

/-- Two bytes, a colon and two bytes at the end are taken for a timezone exactly if there is a
    sign. -/
theorem zoneParts?_append (p : List Char) (c : Char) {hours minutes : List Char}
    (hhours : utf8Size hours = 2) (hminutes : utf8Size minutes = 2) :
    zoneParts? (p ++ c :: (hours ++ ':' :: minutes)) =
      match c with
      | '+' => some (p, false, hours, minutes)
      | '-' => some (p, true, hours, minutes)
      | _ => none := by
  have hreverse : (p ++ c :: (hours ++ ':' :: minutes)).reverse =
      minutes.reverse ++ ':' :: (hours.reverse ++ c :: p.reverse) := by simp
  have hlast (r : List Char) : takeBytes 2 (minutes.reverse ++ r) = some (minutes.reverse, r) := by
    rw [← hminutes, ← utf8Size_reverse minutes, takeBytes_append]
  have hfirst (r : List Char) : takeBytes 2 (hours.reverse ++ r) = some (hours.reverse, r) := by
    rw [← hhours, ← utf8Size_reverse hours, takeBytes_append]
  unfold zoneParts?
  simp only [hreverse, hlast, hfirst, Option.bind_eq_bind, Option.bind_some, List.reverse_reverse]
  split
  · next hcons =>
    obtain ⟨rfl, rfl⟩ := List.cons.inj hcons
    rw [List.reverse_reverse]
    rfl
  · next hcons =>
    obtain ⟨rfl, rfl⟩ := List.cons.inj hcons
    rw [List.reverse_reverse]
    rfl
  · next hplus hminus =>
    split
    · exact absurd rfl (hplus _)
    · exact absurd rfl (hminus _)
    · rfl

/-- Two digits, a colon and two digits at the end are a timezone exactly if there is a sign. -/
theorem zoneParts?_digits (p : List Char) (c : Char) {hours minutes : List Char}
    (hhours : hours.length = 2) (hminutes : minutes.length = 2)
    (hh : hours.all isPlain = true) (hm : minutes.all isPlain = true) :
    zoneParts? (p ++ c :: (hours ++ ':' :: minutes)) =
      match c with
      | '+' => some (p, false, hours, minutes)
      | '-' => some (p, true, hours, minutes)
      | _ => none :=
  zoneParts?_append p c ((utf8Size_of_all_isPlain hh).trans hhours)
    ((utf8Size_of_all_isPlain hm).trans hminutes)

/-- At the end of dates and fractions there is no timezone. -/
theorem zoneParts?_plain (p : List Char) {q : List Char} (hlength : 3 ≤ q.length)
    (h : q.all isPlain = true) : zoneParts? (p ++ q) = none := by
  obtain ⟨a, b, c, r, hq⟩ : ∃ a b c r, q.reverse = a :: b :: c :: r := by
    match hr : q.reverse with
    | a :: b :: c :: r => exact ⟨a, b, c, r, rfl⟩
    | [] | [_] | [_, _] =>
      have hlength' := congrArg List.length hr
      simp only [List.length_reverse, List.length_cons, List.length_nil] at hlength'
      omega
  have hall : ∀ x ∈ q.reverse, isPlain x = true :=
    fun x hx => List.all_eq_true.1 h x (List.mem_reverse.1 hx)
  rw [hq] at hall
  have hsize : utf8Size [a, b] = 2 := utf8Size_of_all_isPlain (by simp [hall])
  have hlast : takeBytes 2 (a :: b :: c :: (r ++ p.reverse)) =
      some ([a, b], c :: (r ++ p.reverse)) := by
    rw [← hsize]
    exact takeBytes_append [a, b] _
  have hcolon : c ≠ ':' := ne_of_isPlain (hall c (by simp)) (by decide)
  unfold zoneParts?
  simp only [List.reverse_append, hq, List.cons_append, hlast, Option.bind_eq_bind,
    Option.bind_some]
  split
  · next hcons => exact absurd (List.cons.inj hcons).1 hcolon
  · rfl

theorem getLast?_plain (p : List Char) {q : List Char} (hne : q ≠ []) (h : q.all isPlain = true) :
    (p ++ q).getLast? ≠ some 'Z' := by
  rw [List.getLast?_append, List.getLast?_eq_some_getLast hne, Option.some_or]
  intro hlast
  have hz := List.all_eq_true.1 h _ (List.getLast_mem hne)
  rw [Option.some.inj hlast] at hz
  exact absurd hz (by decide)

/-- A text that does not end with a timezone. -/
def Unzoned (s : List Char) : Prop := s.getLast? ≠ some 'Z' ∧ zoneParts? s = none

/-- Texts that end like dates and fractions have none. -/
theorem unzoned_plain (p : List Char) {q : List Char} (hlength : 3 ≤ q.length)
    (h : q.all isPlain = true) : Unzoned (p ++ q) :=
  ⟨getLast?_plain p (List.ne_nil_of_length_pos (by omega)) h, zoneParts?_plain p hlength h⟩

theorem takeZone_none {s : List Char} (h : Unzoned s) : takeZone s = .ok (s, none) := by
  rw [takeZone, if_neg h.1, h.2]

/-- What is written as a timezone is taken off again. -/
theorem takeZone_some (s : List Char) {o : Offset} (h : IsZone o) :
    takeZone (s ++ writeZone (some o)) = .ok (s, some o) := by
  obtain ⟨hminutes, hhours⟩ := h
  by_cases hzero : o.val = 0
  · rw [show o = Offset.utc from Bounded.ext_val hzero, takeZone]
    simp [writeZone, Offset.utc]
  · generalize hhour : o.val.natAbs / 3600 = hour
    generalize hminute : o.val.natAbs % 3600 / 60 = minute
    have hhour_lt : hour < 100 := by omega
    have hminute_lt : minute < 100 := by omega
    have hwrite : writeZone (some o) =
        (if o.val < 0 then '-' else '+') :: (writeField hour ++ ':' :: writeField minute) := by
      simp only [writeZone, if_neg hzero, hhour, hminute, List.cons_append]
    have hlast : (s ++ writeZone (some o)).getLast? ≠ some 'Z' := by
      rw [hwrite, List.append_cons, ← List.append_assoc, List.append_cons]
      have hpos : 0 < (writeField minute).length := by
        rw [length_writeField hminute_lt]
        decide
      exact getLast?_plain _ (List.ne_nil_of_length_pos hpos) (writeField_all_isPlain minute)
    have hparts : zoneParts? (s ++ writeZone (some o)) =
        some (s, decide (o.val < 0), writeField hour, writeField minute) := by
      rw [hwrite, zoneParts?_digits s _ (length_writeField hhour_lt) (length_writeField hminute_lt)
        (writeField_all_isPlain hour) (writeField_all_isPlain minute)]
      by_cases hneg : o.val < 0 <;> simp [hneg]
    have hseconds : (if o.val < 0 then -((hour : Int) * 3600 + (minute : Int) * 60)
        else (hour : Int) * 3600 + (minute : Int) * 60) = o.val := by
      split <;> omega
    have hfits : (Bounded.ofInt? o.val : Option Offset) = some o :=
      Bounded.ofInt?_eq_some_iff.2 rfl
    have hbounds : ¬ (14 < hour ∨ 59 < minute ∨ (hour = 14 ∧ minute ≠ 0)) := by omega
    simp only [takeZone, if_neg hlast, hparts, readTwoDigits_writeField hhour_lt,
      readTwoDigits_writeField hminute_lt, bind, Except.bind, pure, Except.pure, if_neg hbounds,
      decide_eq_true_eq, hseconds, hfits, orOutOfRange]

/-- A timezone, if there is one, is one that literals have. -/
def IsZone? (zone : Option Offset) : Prop := ∀ o, zone = some o → IsZone o

theorem takeZone_writeZone {s : List Char} (hs : Unzoned s) {zone : Option Offset}
    (h : IsZone? zone) : takeZone (s ++ writeZone zone) = .ok (s, zone) := by
  cases zone with
  | none =>
    rw [writeZone, List.append_nil]
    exact takeZone_none hs
  | some o => exact takeZone_some s (h o rfl)

theorem isSolid_writeZone (zone : Option Offset) : isSolid (writeZone zone) = true := by
  cases zone with
  | none => rfl
  | some o =>
    simp only [writeZone]
    split
    · decide
    · split <;> simp [isUnicodeSpace]

/-- So it is when white space is trimmed before, as the text has none. -/
theorem takeZoneTrimmed_writeZone {s : List Char} (hs : Unzoned s) (hsolid : isSolid s = true)
    {zone : Option Offset} (h : IsZone? zone) :
    takeZoneTrimmed (s ++ writeZone zone) = .ok (s, zone) := by
  have htext : isSolid (s ++ writeZone zone) = true := by
    rw [isSolid_append, hsolid, isSolid_writeZone]
    rfl
  rw [takeZoneTrimmed, trim_eq_self, takeZone_writeZone hs h]
  intro c hc
  simpa using List.all_eq_true.1 htext c hc

/-! ### Dates -/

/-- The day and the month are cut off at the last two hyphens. -/
theorem readDateFields_write (d : Date) :
    readDateFields (writeDate d) =
      (yearOf d.year >>= fun year => orOutOfRange (Date.ofFields? year d.month d.day)) := by
  have hmonth := d.month_bounds
  have hday := d.day_bounds
  have hlong := daysInMonth_le d.year d.month
  have hhyphen : isDigit '-' = false := by decide
  have hwrite : writeDate d =
      (writeYear d.year ++ '-' :: writeField d.month) ++ '-' :: writeField d.day := by
    simp [writeDate]
  simp only [readDateFields, hwrite, splitLast_append (not_mem_writeField hhyphen _), orMalformed,
    bind, Except.bind, readYear_writeYear, readTwoDigits_writeField (n := d.month) (by omega),
    readTwoDigits_writeField (n := d.day) (by omega)]

theorem readDateFields_writeDate {d : Date} (h : d.year ≠ 0) :
    readDateFields (writeDate d) = .ok d := by
  have hbounds := d.year_bounds
  have hyear : IsYear d.year := by
    refine ⟨h, ?_⟩
    simp only [firstYear, lastYear] at hbounds
    omega
  rw [readDateFields_write, yearOf_eq hyear]
  simp only [bind, Except.bind, d.ofFields?_fields, orOutOfRange]

/-- The year zero is written, but it is none that could be read. -/
theorem readDateFields_yearZero {d : Date} (h : d.year = 0) :
    readDateFields (writeDate d) = .error .outOfRange := by
  rw [readDateFields_write, h]
  rfl

@[simp] theorem writeDate_all_isPlain (d : Date) : (writeDate d).all isPlain = true := by
  simp [writeDate, isPlain]

theorem unzoned_writeDate (d : Date) : Unzoned (writeDate d) := by
  refine unzoned_plain [] (q := writeDate d) ?_ (writeDate_all_isPlain d)
  have hlength := le_length_writeYear d.year
  rw [writeDate, List.append_assoc, List.length_append]
  omega

/-! ### Times -/

/-- The digits of a fraction of a second, up to the last one that is not zero. -/
def fractionDigits (nanos : Nat) : List Char :=
  ((writePadded 9 nanos).reverse.dropWhile (· == '0')).reverse

theorem fractionDigits_all_isDigit (nanos : Nat) : (fractionDigits nanos).all isDigit = true := by
  rw [List.all_eq_true]
  intro c hc
  have hmem := (List.dropWhile_sublist _).subset (List.mem_reverse.1 hc)
  exact List.all_eq_true.1 (writePadded_all_isDigit 9 nanos) c (List.mem_reverse.1 hmem)

/-- The zeros that were left out are filled in when a fraction is read. -/
theorem readFraction_fractionDigits {nanos : Nat} (h : nanos < nanosPerSecond) :
    readFraction (fractionDigits nanos) = nanos := by
  have hlength : (writePadded 9 nanos).length = 9 := length_writePadded (by decide) h
  have hfill : fractionDigits nanos ++ List.replicate (9 - (fractionDigits nanos).length) '0' =
      writePadded 9 nanos := by
    have hfill := dropWhile_zeros_append (writePadded 9 nanos)
    rwa [hlength] at hfill
  have hle : (fractionDigits nanos).length ≤ 9 := by
    have hsum := congrArg List.length hfill
    rw [List.length_append, hlength] at hsum
    omega
  rw [readFraction, List.take_of_length_le hle, hfill, readDigits_writePadded]

/-- The digits behind the point, if a fraction is written. -/
def fraction? (nanos : Nat) : Option (List Char) :=
  if nanos = 0 then none else some (fractionDigits nanos)

theorem writeFraction_eq (nanos : Nat) :
    writeFraction nanos = ((fraction? nanos).map ('.' :: ·)).getD [] := by
  unfold writeFraction fraction?
  split <;> rfl

/-- What is written as a fraction is one, and is read as the nanoseconds. -/
theorem readFraction_fraction? {nanos : Nat} (h : nanos < nanosPerSecond) :
    (!((fraction? nanos).getD []).all isDigit || fraction? nanos == some []) = false ∧
      readFraction ((fraction? nanos).getD []) = nanos := by
  unfold fraction?
  by_cases hzero : nanos = 0
  · rw [if_pos hzero, hzero]
    exact ⟨rfl, rfl⟩
  · have hread := readFraction_fractionDigits h
    have hne : fractionDigits nanos ≠ [] := by
      intro hnil
      rw [hnil] at hread
      exact hzero hread.symm
    rw [if_neg hzero]
    simp only [Option.getD_some, fractionDigits_all_isDigit, Bool.not_true, Bool.false_or]
    exact ⟨by simpa using hne, hread⟩

end Calendar

namespace Clock

variable (c : Clock)

theorem field_bounds :
    c.hour < 24 ∧ c.minute < 60 ∧ c.second < 60 ∧ c.subsecond < nanosPerSecond := by
  have hlt := c.nanos_lt
  simp only [hour, minute, second, subsecond, nanosPerDay, nanosPerSecond] at hlt ⊢
  omega

/-- A time is made of its fields. -/
theorem ofFields?_fields : ofFields? c.hour c.minute c.second c.subsecond = some c := by
  have hnanos : (c.hour * 3600 + c.minute * 60 + c.second) * nanosPerSecond + c.subsecond =
      c.nanos := by
    simp only [hour, minute, second, subsecond, nanosPerSecond]
    omega
  rw [ofFields?, dif_pos c.field_bounds]
  exact congrArg some (ext_nanos hnanos)

end Clock

namespace Calendar

/-- A time is cut at its colons and its point. -/
theorem readClockFields_writeClock (c : Clock) :
    readClockFields (writeClock c) = .ok (c, false) := by
  obtain ⟨hhour, hminute, hsecond, hsub⟩ := c.field_bounds
  obtain ⟨hform, hread⟩ := readFraction_fraction? hsub
  have hcolon : isDigit ':' = false := by decide
  have hpoint : '.' ∉ writeField c.second := not_mem_writeField (by decide) _
  have hwrite : writeClock c = writeField c.hour ++ ':' :: (writeField c.minute ++
      ':' :: (writeField c.second ++ writeFraction c.subsecond)) := by
    simp [writeClock]
  have hmidnight : ¬ c.hour = 24 := by omega
  simp only [readClockFields, hwrite, splitFirst_append (not_mem_writeField hcolon _),
    readTwoDigits_writeField (n := c.hour) (by omega),
    readTwoDigits_writeField (n := c.minute) (by omega), orMalformed, bind, Except.bind,
    writeFraction_eq]
  -- With a point or without one, the seconds and the fraction are apart.
  cases hfraction : fraction? c.subsecond with
  | none =>
    rw [hfraction, Option.getD_none] at hform hread
    simp only [Option.map_none, Option.getD_none, List.append_nil, splitFirst_of_not_mem hpoint,
      readTwoDigits_writeField (n := c.second) (by omega)]
    rw [hform, hread, if_neg hmidnight, c.ofFields?_fields]
    rfl
  | some digits =>
    rw [hfraction, Option.getD_some] at hform hread
    simp only [Option.map_some, Option.getD_some, splitFirst_append hpoint,
      readTwoDigits_writeField (n := c.second) (by omega)]
    rw [hform, hread, if_neg hmidnight, c.ofFields?_fields]
    rfl

@[simp] theorem isSolid_writeClock (c : Clock) : isSolid (writeClock c) = true := by
  have hfraction : isSolid (writeFraction c.subsecond) = true := by
    have hdigits := all_isPlain_of_all_isDigit (fractionDigits_all_isDigit c.subsecond)
    unfold writeFraction
    split
    · rfl
    · exact isSolid_of_all_isPlain (s := '.' :: fractionDigits c.subsecond) hdigits
  simp [writeClock, hfraction, isUnicodeSpace]

/-- A time ends with its seconds, before which there is no sign, or with a fraction. -/
theorem unzoned_writeClock (p : List Char) (c : Clock) : Unzoned (p ++ writeClock c) := by
  obtain ⟨hhour, hminute, hsecond, hsub⟩ := c.field_bounds
  have hminute' : (writeField c.minute).length = 2 := length_writeField (by omega)
  have hsecond' : (writeField c.second).length = 2 := length_writeField (by omega)
  have hne : writeField c.second ≠ [] := List.ne_nil_of_length_pos (by omega)
  by_cases hzero : c.subsecond = 0
  · have hwrite : p ++ writeClock c = (p ++ writeField c.hour) ++
        ':' :: (writeField c.minute ++ ':' :: writeField c.second) := by
      simp [writeClock, writeFraction, hzero]
    rw [hwrite]
    refine ⟨?_, ?_⟩
    · rw [List.append_cons, ← List.append_assoc, List.append_cons]
      exact getLast?_plain _ hne (writeField_all_isPlain _)
    · exact zoneParts?_digits _ ':' hminute' hsecond' (writeField_all_isPlain _)
        (writeField_all_isPlain _)
  · have hdigits := fractionDigits_all_isDigit c.subsecond
    have hwrite : p ++ writeClock c =
        (p ++ writeField c.hour ++ ':' :: writeField c.minute ++ [':']) ++
          (writeField c.second ++ '.' :: fractionDigits c.subsecond) := by
      simp [writeClock, writeFraction, fractionDigits, hzero]
    rw [hwrite]
    refine unzoned_plain _ ?_ ?_
    · rw [List.length_append, List.length_cons]
      omega
    · rw [List.all_append, List.all_cons, writeField_all_isPlain,
        all_isPlain_of_all_isDigit hdigits]
      rfl

end Calendar

end XPathData
