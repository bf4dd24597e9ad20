import XPathData.Proofs.Calendar.Text
import XPathData.Proofs.Calendar.TimeLine

/-! # The grammar of dates

  A date or a fragment of one is written as fields of two digits, a year and marks between them,
  and perhaps a timezone at the end. The relations of this module say which texts are written so,
  and what they denote. Reading succeeds exactly on these texts and gives what they denote. A field
  is cut off at the first or the last of its marks; as fields have no marks in them, and no body of
  a literal ends like a timezone, nothing can be cut in another way.

  * `Calendar.YearText`, `Calendar.DateText`, `Calendar.ZoneText`, `Fragment.FieldsText` — what is
    written
  * `Calendar.readYear_eq_ok_iff`, `Calendar.readDateFields_eq_ok_iff`,
    `Fragment.readFields_eq_ok_iff` — what is read
  * `Calendar.exists_zoneText`, `Calendar.takeZone_append` — the timezone at the end
-/

namespace XPathData

open Text

/-! ### Successful readings -/

namespace Reading

variable {α β : Type} {r : Option α} {a : α} {b : β}

theorem orMalformed_eq_ok_iff : orMalformed r = .ok a ↔ r = some a := by
  cases r <;> simp [orMalformed]

theorem orOutOfRange_eq_ok_iff : orOutOfRange r = .ok a ↔ r = some a := by
  cases r <;> simp [orOutOfRange]

/-- Both parts of a reading have to succeed. -/
theorem bind_eq_ok_iff {x : Reading α} {f : α → Reading β} :
    x >>= f = .ok b ↔ ∃ a, x = .ok a ∧ f a = .ok b := by
  cases x with
  | ok a =>
    refine ⟨fun h => ⟨a, rfl, h⟩, ?_⟩
    rintro ⟨_, ⟨⟩, h⟩
    exact h
  | error e =>
    constructor
    · intro h
      cases h
    · rintro ⟨_, ⟨⟩, _⟩

theorem map_eq_ok_iff {x : Reading α} {f : α → β} :
    x.map f = .ok b ↔ ∃ a, x = .ok a ∧ f a = b := by
  cases x with
  | ok a =>
    refine ⟨fun h => ⟨a, rfl, Except.ok.inj h⟩, ?_⟩
    rintro ⟨_, ⟨⟩, rfl⟩
    rfl
  | error e =>
    constructor
    · intro h
      cases h
    · rintro ⟨_, ⟨⟩, _⟩

end Reading

open Reading

namespace Calendar

variable {s t body : List Char} {n : Nat} {y : Int} {d : Date} {zone : Option Offset}

/-! ### Fields -/

/-- Two digits that denote a number. -/
structure IsField (s : List Char) (n : Nat) : Prop where
  length_eq : s.length = 2
  digits : s.all isDigit = true
  value_eq : readDigits s = n

namespace IsField

theorem all_isPlain (h : IsField s n) : s.all isPlain = true := all_isPlain_of_all_isDigit h.digits

theorem not_mem (h : IsField s n) {c : Char} (hc : isDigit c = false) : c ∉ s := by
  intro hmem
  rw [List.all_eq_true.1 h.digits c hmem] at hc
  cases hc

theorem ne_nil (h : IsField s n) : s ≠ [] :=
  List.ne_nil_of_length_pos (by rw [h.length_eq]; decide)

end IsField

theorem readTwoDigits_eq_ok_iff : readTwoDigits s = .ok n ↔ IsField s n := by
  constructor
  · intro h
    unfold readTwoDigits at h
    split at h
    · next a b =>
      split at h
      · next hdigits =>
        refine ⟨rfl, ?_, Except.ok.inj h⟩
        simpa using hdigits
      · cases h
    · cases h
  · intro h
    rw [readTwoDigits_eq h.length_eq h.digits, h.value_eq]

/-! ### Years -/

/-- A year as it is written: perhaps a minus, then at least four digits, the first of which is no
    needless zero. There is no year zero. -/
structure YearText (s : List Char) (y : Int) : Prop where
  text : ∃ (negative : Bool) (digits : List Char),
    s = (if negative then ['-'] else []) ++ digits ∧ digits.all isDigit = true ∧
      4 ≤ digits.length ∧ (4 < digits.length → digits.head? ≠ some '0') ∧
      y = if negative then -(readDigits digits : Int) else readDigits digits
  ne_zero : y ≠ 0

theorem YearText.all_isPlain (h : YearText s y) : s.all isPlain = true := by
  obtain ⟨negative, digits, rfl, hdigits, -⟩ := h.text
  rw [List.all_append, all_isPlain_of_all_isDigit hdigits]
  cases negative <;> rfl

theorem YearText.le_length (h : YearText s y) : 4 ≤ s.length := by
  obtain ⟨negative, digits, rfl, -, hlength, -⟩ := h.text
  rw [List.length_append]
  omega

/-- What is read as a year has its form. -/
theorem exists_year_digits (h : readYear s = .ok y) :
    ∃ (negative : Bool) (digits : List Char),
      s = (if negative then ['-'] else []) ++ digits ∧ digits.all isDigit = true ∧
        4 ≤ digits.length ∧ (4 < digits.length → digits.head? ≠ some '0') := by
  have hform (digits : List Char) (hno : ¬(decide (digits.length < 4) || !digits.all isDigit ||
      (decide (4 < digits.length) && digits.head? == some '0')) = true) :
      digits.all isDigit = true ∧ 4 ≤ digits.length ∧
        (4 < digits.length → digits.head? ≠ some '0') := by
    simpa [not_or, and_assoc, and_comm, and_left_comm] using hno
  unfold readYear at h
  split at h
  next negative digits hsign =>
    dsimp only at h
    split at h
    · cases h
    · next hno =>
      refine ⟨negative, digits, ?_, hform digits hno⟩
      split at hsign <;> cases hsign <;> rfl

theorem readYear_eq_ok_iff :
    readYear s = .ok y ↔ YearText s y ∧ -0x80000000 ≤ y ∧ y ≤ 0x7FFFFFFF := by
  constructor
  · intro h
    obtain ⟨negative, digits, rfl, hdigits, hlength, hhead⟩ := exists_year_digits h
    rw [readYear_eq negative hdigits hlength hhead] at h
    -- The number of the digits is the year, if it is one at all.
    obtain ⟨year, hyear, hne⟩ := bind_eq_ok_iff.1 h
    have hval := Bounded.ofInt?_eq_some_iff.1 (orOutOfRange_eq_ok_iff.1 hyear)
    split at hne
    · cases hne
    · next hzero =>
      cases hne
      exact ⟨⟨⟨negative, digits, rfl, hdigits, hlength, hhead, hval⟩, hzero⟩, year.low_le,
        year.le_high⟩
  · rintro ⟨⟨⟨negative, digits, rfl, hdigits, hlength, hhead, hval⟩, hzero⟩, hbounds⟩
    rw [readYear_eq negative hdigits hlength hhead, ← hval]
    exact yearOf_eq ⟨hzero, hbounds⟩

/-! ### Timezones -/

/-- A timezone as it is written: nothing, a `Z`, or a sign and an offset up to fourteen hours. -/
inductive ZoneText : List Char → Option Offset → Prop where
  | none : ZoneText [] none
  | utc : ZoneText ['Z'] (some .utc)
  | offset (negative : Bool) {hours minutes : List Char} {h m : Nat} {o : Offset}
    (hhours : IsField hours h) (hminutes : IsField minutes m)
    (hrange : h < 14 ∧ m < 60 ∨ h = 14 ∧ m = 0)
    (ho : o.val = if negative then -((h : Int) * 3600 + m * 60) else (h : Int) * 3600 + m * 60) :
    ZoneText ((if negative then '-' else '+') :: (hours ++ ':' :: minutes)) (some o)

theorem ZoneText.isSolid (h : ZoneText t zone) : isSolid t = true := by
  cases h with
  | none => rfl
  | utc => decide
  | offset negative hhours hminutes =>
    have hsign : isUnicodeSpace (if negative then '-' else '+') = false := by
      cases negative <;> decide
    have hcolon : isUnicodeSpace ':' = false := by decide
    simp [hsign, hcolon, isSolid_of_all_isPlain hhours.all_isPlain,
      isSolid_of_all_isPlain hminutes.all_isPlain]

/-- What is cut off as a timezone stands at the end of the text, and its fields have two bytes. -/
theorem zoneParts?_eq_some {negative : Bool} {hours minutes : List Char}
    (h : zoneParts? s = some (body, negative, hours, minutes)) :
    s = body ++ (if negative then '-' else '+') :: (hours ++ ':' :: minutes) ∧
      utf8Size hours = 2 ∧ utf8Size minutes = 2 := by
  obtain ⟨⟨last, rest⟩, hlast, h⟩ := Option.bind_eq_some_iff.1 h
  obtain ⟨hs, hlastSize⟩ := takeBytes_eq_some hlast
  dsimp only at h
  split at h
  · next behind =>
    obtain ⟨⟨first, front⟩, hfirst, h⟩ := Option.bind_eq_some_iff.1 h
    obtain ⟨hbehind, hfirstSize⟩ := takeBytes_eq_some hfirst
    rw [← s.reverse_reverse, hs, hbehind]
    rw [← utf8Size_reverse] at hlastSize hfirstSize
    dsimp only at h
    split at h
    · cases h
      exact ⟨by simp, hfirstSize, hlastSize⟩
    · cases h
      exact ⟨by simp, hfirstSize, hlastSize⟩
    · cases h
  · cases h

/-- What is taken off as a timezone is one. -/
theorem exists_zoneText (h : takeZone s = .ok (body, zone)) :
    ∃ t, s = body ++ t ∧ ZoneText t zone := by
  unfold takeZone at h
  split at h
  · next hlast =>
    cases h
    obtain ⟨front, rfl⟩ := List.getLast?_eq_some_iff.1 hlast
    exact ⟨['Z'], by simp, .utc⟩
  · split at h
    · cases h
      exact ⟨[], (List.append_nil s).symm, .none⟩
    · next front negative hours minutes hparts =>
      obtain ⟨hh, hhours, h⟩ := bind_eq_ok_iff.1 h
      obtain ⟨mm, hminutes, h⟩ := bind_eq_ok_iff.1 h
      dsimp only at h
      split at h
      · cases h
      · next hrange =>
        obtain ⟨o, ho, h⟩ := bind_eq_ok_iff.1 h
        cases h
        exact ⟨_, (zoneParts?_eq_some hparts).1, .offset negative (readTwoDigits_eq_ok_iff.1 hhours)
          (readTwoDigits_eq_ok_iff.1 hminutes) (by omega)
          (Bounded.ofInt?_eq_some_iff.1 (orOutOfRange_eq_ok_iff.1 ho))⟩

/-- A timezone behind a text without one is taken off. -/
theorem takeZone_append (hzone : ZoneText t zone) (hbody : Unzoned body) :
    takeZone (body ++ t) = .ok (body, zone) := by
  cases hzone with
  | none =>
    rw [List.append_nil]
    exact takeZone_none hbody
  | utc => simp [takeZone]
  | @offset negative hours minutes h m o hhours hminutes hrange ho =>
    have hlast :
        (body ++ (if negative then '-' else '+') :: (hours ++ ':' :: minutes)).getLast? ≠
          some 'Z' := by
      rw [List.append_cons, ← List.append_assoc, List.append_cons]
      exact getLast?_plain _ hminutes.ne_nil hminutes.all_isPlain
    have hparts : zoneParts? (body ++ (if negative then '-' else '+') :: (hours ++ ':' :: minutes)) =
        some (body, negative, hours, minutes) := by
      rw [zoneParts?_digits body _ hhours.length_eq hminutes.length_eq hhours.all_isPlain
        hminutes.all_isPlain]
      cases negative <;> rfl
    have hbounds : ¬(14 < h ∨ 59 < m ∨ (h = 14 ∧ m ≠ 0)) := by omega
    have hfits : (Bounded.ofInt? o.val : Option Offset) = some o :=
      Bounded.ofInt?_eq_some_iff.2 rfl
    simp only [takeZone, if_neg hlast, hparts, readTwoDigits_eq_ok_iff.2 hhours,
      readTwoDigits_eq_ok_iff.2 hminutes, bind, Except.bind, pure, Except.pure, if_neg hbounds,
      ← ho, hfits, orOutOfRange]

/-- Fields with a timezone behind them are read as what they denote, if no text of such fields
    ends like a timezone itself. -/
theorem zoned_eq_ok_iff {α : Type} {read : List Char → Reading α} {form : List Char → α → Prop}
    (hread : ∀ s a, read s = .ok a ↔ form s a) (hform : ∀ s a, form s a → Unzoned s) {a : α} :
    (takeZone s >>= fun p => read p.1 >>= fun a => .ok (a, p.2)) = .ok (a, zone) ↔
      ∃ body t, s = body ++ t ∧ form body a ∧ ZoneText t zone := by
  constructor
  · intro h
    obtain ⟨⟨body, zone'⟩, hzone, h⟩ := bind_eq_ok_iff.1 h
    obtain ⟨a', ha, h⟩ := bind_eq_ok_iff.1 h
    cases h
    obtain ⟨t, rfl, ht⟩ := exists_zoneText hzone
    exact ⟨body, t, rfl, (hread _ _).1 ha, ht⟩
  · rintro ⟨body, t, rfl, hbody, ht⟩
    rw [takeZone_append ht (hform _ _ hbody)]
    exact bind_eq_ok_iff.2 ⟨(body, zone), rfl, bind_eq_ok_iff.2 ⟨a, (hread _ _).2 hbody, rfl⟩⟩

/-! ### Dates -/

/-- A date as it is written: year, month and day. -/
def DateText (s : List Char) (d : Date) : Prop :=
  ∃ year month day, s = year ++ '-' :: (month ++ '-' :: day) ∧ YearText year d.year ∧
    IsField month d.month ∧ IsField day d.day

theorem DateText.all_isPlain (h : DateText s d) : s.all isPlain = true := by
  obtain ⟨year, month, day, rfl, hyear, hmonth, hday⟩ := h
  simp [hyear.all_isPlain, hmonth.all_isPlain, hday.all_isPlain, isPlain]

theorem DateText.unzoned (h : DateText s d) : Unzoned s := by
  have hplain := h.all_isPlain
  obtain ⟨year, month, day, rfl, hyear, -⟩ := h
  have hlength := hyear.le_length
  refine unzoned_plain [] (q := year ++ '-' :: (month ++ '-' :: day)) ?_ hplain
  rw [List.length_append]
  omega

theorem readDateFields_eq_ok_iff : readDateFields s = .ok d ↔ DateText s d := by
  have hhyphen : isDigit '-' = false := by decide
  constructor
  · intro h
    obtain ⟨⟨rest, day⟩, hday, h⟩ := bind_eq_ok_iff.1 h
    obtain ⟨⟨year, month⟩, hmonth, h⟩ := bind_eq_ok_iff.1 h
    obtain ⟨y, hy, h⟩ := bind_eq_ok_iff.1 h
    obtain ⟨m, hm, h⟩ := bind_eq_ok_iff.1 h
    obtain ⟨dd, hd, h⟩ := bind_eq_ok_iff.1 h
    have hs := splitLast_eq_some (orMalformed_eq_ok_iff.1 hday)
    have hrest := splitLast_eq_some (orMalformed_eq_ok_iff.1 hmonth)
    obtain ⟨rfl, rfl, rfl⟩ := Date.ofFields?_eq_some (orOutOfRange_eq_ok_iff.1 h)
    refine ⟨year, month, day, ?_, (readYear_eq_ok_iff.1 hy).1, readTwoDigits_eq_ok_iff.1 hm,
      readTwoDigits_eq_ok_iff.1 hd⟩
    rw [hs, hrest, List.append_assoc]
    rfl
  · rintro ⟨year, month, day, rfl, hyear, hmonth, hday⟩
    have hcutDay : splitLast '-' ((year ++ '-' :: month) ++ '-' :: day) =
        some (year ++ '-' :: month, day) :=
      splitLast_append (hday.not_mem hhyphen) _
    have hcutMonth : splitLast '-' (year ++ '-' :: month) = some (year, month) :=
      splitLast_append (hmonth.not_mem hhyphen) _
    have hbounds := d.year_bounds
    simp only [firstYear, lastYear] at hbounds
    have hread : readYear year = .ok d.year := readYear_eq_ok_iff.2 ⟨hyear, by omega⟩
    have htext : year ++ '-' :: (month ++ '-' :: day) = (year ++ '-' :: month) ++ '-' :: day := by
      simp
    simp only [readDateFields, htext, hcutDay, hcutMonth, hread, orMalformed,
      readTwoDigits_eq_ok_iff.2 hmonth, readTwoDigits_eq_ok_iff.2 hday, d.ofFields?_fields,
      orOutOfRange, bind, Except.bind]

end Calendar

/-! ### Fragments of dates -/

namespace Fragment

open Calendar

/-- A fragment as it is written: marks stand for the fields that it does not have. The day of a
    month is one of a leap year, if no year is given. -/
inductive FieldsText : List Char → Fragment → Prop where
  | year {s : List Char} {y : Int} (hyear : YearText s y)
    (hbounds : -0x80000000 ≤ y ∧ y ≤ 0x7FFFFFFF) : FieldsText s (year y)
  | yearMonth {s t : List Char} {y : Int} {m : Nat} (hyear : YearText s y)
    (hbounds : -0x80000000 ≤ y ∧ y ≤ 0x7FFFFFFF) (hmonth : IsField t m) (hm : 1 ≤ m ∧ m ≤ 12) :
    FieldsText (s ++ '-' :: t) (yearMonth y m)
  | month {t : List Char} {m : Nat} (hmonth : IsField t m) (hm : 1 ≤ m ∧ m ≤ 12) :
    FieldsText ('-' :: '-' :: t) (month m)
  | monthDay {t u : List Char} {m d : Nat} (hmonth : IsField t m) (hm : 1 ≤ m ∧ m ≤ 12)
    (hday : IsField u d) (hd : 1 ≤ d ∧ d ≤ daysInMonth 2000 m) :
    FieldsText ('-' :: '-' :: (t ++ '-' :: u)) (monthDay m d)
  | day {u : List Char} {d : Nat} (hday : IsField u d) (hd : 1 ≤ d ∧ d ≤ 31) :
    FieldsText ('-' :: '-' :: '-' :: u) (day d)

/-- A field between bounds is two digits that denote a number between them. -/
theorem within_eq_ok_iff {s : List Char} {n low high : Nat} :
    (readTwoDigits s >>= fun n =>
      if low ≤ n ∧ n ≤ high then .ok n else .error .outOfRange) = .ok n ↔
      IsField s n ∧ low ≤ n ∧ n ≤ high := by
  rw [bind_eq_ok_iff]
  constructor
  · rintro ⟨m, hm, h⟩
    split at h
    · next hbounds =>
      cases h
      exact ⟨readTwoDigits_eq_ok_iff.1 hm, hbounds⟩
    · cases h
  · rintro ⟨hfield, hbounds⟩
    exact ⟨n, readTwoDigits_eq_ok_iff.2 hfield, if_pos hbounds⟩

theorem readMonth_eq_ok_iff {s : List Char} {m : Nat} :
    readMonth s = .ok m ↔ IsField s m ∧ 1 ≤ m ∧ m ≤ 12 := within_eq_ok_iff

theorem readDay_eq_ok_iff {s : List Char} {d : Nat} :
    readDay s = .ok d ↔ IsField s d ∧ 1 ≤ d ∧ d ≤ 31 := within_eq_ok_iff

theorem afterMark_eq_ok_iff {mark : String} {s t : List Char} :
    afterMark mark s = .ok t ↔ s = mark.toList ++ t := by
  unfold afterMark
  rw [orMalformed_eq_ok_iff]
  constructor
  · exact fun h => (List.isPrefixOf?_eq_some_iff_append_eq.1 h).symm
  · rintro rfl
    exact dropLead?_append _ _

/-- What is read as a fragment of some kind has its fields. -/
theorem exists_fieldsText {s : List Char} {k : FragmentKind} {f : Fragment}
    (h : readFields s k = .ok f) : FieldsText s f ∧ f.kind = k := by
  cases k with
  | year =>
    obtain ⟨y, hy, rfl⟩ := map_eq_ok_iff.1 h
    obtain ⟨hyear, hbounds⟩ := readYear_eq_ok_iff.1 hy
    exact ⟨.year hyear hbounds, rfl⟩
  | yearMonth =>
    obtain ⟨⟨front, back⟩, hcut, h⟩ := bind_eq_ok_iff.1 h
    obtain ⟨y, hy, h⟩ := bind_eq_ok_iff.1 h
    obtain ⟨m, hm, h⟩ := bind_eq_ok_iff.1 h
    cases h
    obtain ⟨hyear, hbounds⟩ := readYear_eq_ok_iff.1 hy
    obtain ⟨hmonth, hm⟩ := readMonth_eq_ok_iff.1 hm
    rw [splitLast_eq_some (orMalformed_eq_ok_iff.1 hcut)]
    exact ⟨.yearMonth hyear hbounds hmonth hm, rfl⟩
  | month =>
    obtain ⟨t, ht, h⟩ := bind_eq_ok_iff.1 h
    obtain ⟨m, hm, h⟩ := bind_eq_ok_iff.1 h
    cases h
    obtain ⟨hmonth, hm⟩ := readMonth_eq_ok_iff.1 hm
    rw [afterMark_eq_ok_iff.1 ht]
    exact ⟨.month hmonth hm, rfl⟩
  | monthDay =>
    obtain ⟨t, ht, h⟩ := bind_eq_ok_iff.1 h
    obtain ⟨⟨front, back⟩, hcut, h⟩ := bind_eq_ok_iff.1 h
    obtain ⟨m, hm, h⟩ := bind_eq_ok_iff.1 h
    obtain ⟨d, hd, h⟩ := bind_eq_ok_iff.1 h
    dsimp only at h
    split at h
    · cases h
    · next hlong =>
      cases h
      obtain ⟨hmonth, hm⟩ := readMonth_eq_ok_iff.1 hm
      obtain ⟨hday, hd⟩ := readDay_eq_ok_iff.1 hd
      rw [afterMark_eq_ok_iff.1 ht, splitFirst_eq_some (orMalformed_eq_ok_iff.1 hcut)]
      exact ⟨.monthDay hmonth hm hday ⟨hd.1, by omega⟩, rfl⟩
  | day =>
    obtain ⟨t, ht, h⟩ := bind_eq_ok_iff.1 h
    obtain ⟨d, hd, h⟩ := bind_eq_ok_iff.1 h
    cases h
    obtain ⟨hday, hd⟩ := readDay_eq_ok_iff.1 hd
    rw [afterMark_eq_ok_iff.1 ht]
    exact ⟨.day hday hd, rfl⟩

theorem FieldsText.readFields {s : List Char} {f : Fragment} (h : FieldsText s f) :
    readFields s f.kind = .ok f := by
  have hhyphen : isDigit '-' = false := by decide
  cases h with
  | year hyear hbounds => exact map_eq_ok_iff.2 ⟨_, readYear_eq_ok_iff.2 ⟨hyear, hbounds⟩, rfl⟩
  | yearMonth hyear hbounds hmonth hm =>
    simp only [Fragment.readFields, kind, splitLast_append (hmonth.not_mem hhyphen), orMalformed,
      readYear_eq_ok_iff.2 ⟨hyear, hbounds⟩, readMonth_eq_ok_iff.2 ⟨hmonth, hm⟩, bind, Except.bind]
    rfl
  | @month t m hmonth hm =>
    have hmark : afterMark "--" ('-' :: '-' :: t) = .ok t := afterMark_eq_ok_iff.2 rfl
    simp only [Fragment.readFields, kind, hmark, readMonth_eq_ok_iff.2 ⟨hmonth, hm⟩, bind,
      Except.bind]
    rfl
  | @monthDay t u m d hmonth hm hday hd =>
    have hlong := daysInMonth_le 2000 m
    have hmark : afterMark "--" ('-' :: '-' :: (t ++ '-' :: u)) = .ok (t ++ '-' :: u) :=
      afterMark_eq_ok_iff.2 rfl
    have hd31 : 1 ≤ d ∧ d ≤ 31 := by omega
    simp only [Fragment.readFields, kind, hmark, splitFirst_append (hmonth.not_mem hhyphen),
      orMalformed, readMonth_eq_ok_iff.2 ⟨hmonth, hm⟩, readDay_eq_ok_iff.2 ⟨hday, hd31⟩, bind,
      Except.bind, if_neg (Nat.not_lt.2 hd.2)]
    rfl
  | @day u d hday hd =>
    have hmark : afterMark "---" ('-' :: '-' :: '-' :: u) = .ok u := afterMark_eq_ok_iff.2 rfl
    simp only [Fragment.readFields, kind, hmark, readDay_eq_ok_iff.2 ⟨hday, hd⟩, bind, Except.bind]
    rfl

theorem readFields_eq_ok_iff {s : List Char} {k : FragmentKind} {f : Fragment} :
    readFields s k = .ok f ↔ FieldsText s f ∧ f.kind = k := by
  refine ⟨exists_fieldsText, ?_⟩
  rintro ⟨h, rfl⟩
  exact h.readFields

theorem FieldsText.all_isPlain {s : List Char} {f : Fragment} (h : FieldsText s f) :
    s.all isPlain = true := by
  have hhyphen : isPlain '-' = true := by decide
  cases h with
  | year hyear _ => exact hyear.all_isPlain
  | yearMonth hyear _ hmonth _ => simp [hyear.all_isPlain, hmonth.all_isPlain, hhyphen]
  | month hmonth _ => simp [hmonth.all_isPlain, hhyphen]
  | monthDay hmonth _ hday _ => simp [hmonth.all_isPlain, hday.all_isPlain, hhyphen]
  | day hday _ => simp [hday.all_isPlain, hhyphen]

theorem FieldsText.unzoned {s : List Char} {f : Fragment} (h : FieldsText s f) : Unzoned s := by
  refine unzoned_plain [] (q := s) ?_ h.all_isPlain
  cases h with
  | year hyear _ => exact Nat.le_of_succ_le hyear.le_length
  | yearMonth hyear _ _ _ =>
    have hlength := hyear.le_length
    rw [List.length_append]
    omega
  | month hfield _ | monthDay hfield _ _ _ | day hfield _ =>
    simp only [List.length_cons, List.length_append, hfield.length_eq]
    omega

end Fragment

end XPathData
