import XPathData.Proofs.Atomic.FromText
import XPathData.Proofs.Calendar.Text
import XPathData.Proofs.Duration.Sign

/-! # Dates and times cast back from their text

  The text of a date, a time or a fragment of a date that was cast from a string is cast to the
  same value again, with its timezone. One date-time is left out: the start of the year zero,
  which no literal has, but which the end of the last day before it comes to.

  * `Fragment.readFields_writeFragment` — fragments of all kinds are read back
  * `Atomic.Denoted` — the values that literals have
  * `Atomic.readTemporal_text` — the text of such a value is a literal that has it
  * `Atomic.temporal_text_read_back` — casting the text of a cast value
-/

namespace XPathData

open Text Reading Calendar

/-! ### Fragments -/

namespace Fragment

/-- The fields of a fragment are those that a literal can have. -/
def Literal (f : Fragment) : Prop := f.Proper ∧ ∀ y, f.year? = some y → IsYear y

/-- A mark at the front is left out again. -/
theorem afterMark_append (mark : String) (s : List Char) :
    afterMark mark (mark.toList ++ s) = .ok s := by
  rw [afterMark, dropLead?_append]
  rfl

theorem readMonth_writeField {m : Nat} (h : 1 ≤ m ∧ m ≤ 12) : readMonth (writeField m) = .ok m := by
  simp only [readMonth, readTwoDigits_writeField (n := m) (by omega), bind, Except.bind, if_pos h]
  rfl

theorem readDay_writeField {d : Nat} (h : 1 ≤ d ∧ d ≤ 31) : readDay (writeField d) = .ok d := by
  simp only [readDay, readTwoDigits_writeField (n := d) (by omega), bind, Except.bind, if_pos h]
  rfl

theorem readFields_writeFragment {f : Fragment} (h : f.Literal) :
    readFields (writeFragment f) f.kind = .ok f := by
  obtain ⟨hproper, hyear⟩ := h
  have hhyphen : isDigit '-' = false := by decide
  cases f with
  | year y =>
    simp only [readFields, kind, writeFragment, readYear_writeYear, yearOf_eq (hyear y rfl)]
    rfl
  | yearMonth y m =>
    simp only [readFields, kind, writeFragment, splitLast_append (not_mem_writeField hhyphen _),
      orMalformed, bind, Except.bind, readYear_writeYear, yearOf_eq (hyear y rfl),
      readMonth_writeField hproper]
    rfl
  | month m =>
    have hmark : afterMark "--" ('-' :: '-' :: writeField m) = .ok (writeField m) :=
      afterMark_append "--" _
    simp only [readFields, kind, writeFragment, hmark, bind, Except.bind,
      readMonth_writeField hproper]
    rfl
  | monthDay m d =>
    obtain ⟨hm, hd⟩ := hproper
    have hlong := daysInMonth_le 2000 m
    have hmark : afterMark "--" ('-' :: '-' :: (writeField m ++ '-' :: writeField d)) =
        .ok (writeField m ++ '-' :: writeField d) :=
      afterMark_append "--" _
    simp only [readFields, kind, writeFragment, List.cons_append, hmark, bind, Except.bind,
      splitFirst_append (not_mem_writeField hhyphen _), orMalformed, readMonth_writeField hm,
      readDay_writeField (d := d) (by omega), if_neg (Nat.not_lt.2 hd.2)]
    rfl
  | day d =>
    have hmark : afterMark "---" ('-' :: '-' :: '-' :: writeField d) = .ok (writeField d) :=
      afterMark_append "---" _
    simp only [readFields, kind, writeFragment, hmark, bind, Except.bind,
      readDay_writeField hproper]
    rfl

@[simp] theorem writeFragment_all_isPlain (f : Fragment) :
    (writeFragment f).all isPlain = true := by
  cases f <;> simp [writeFragment, isPlain]

theorem unzoned_writeFragment (f : Fragment) : Unzoned (writeFragment f) := by
  refine unzoned_plain [] (q := writeFragment f) ?_ (writeFragment_all_isPlain f)
  have hfield (n : Nat) : 2 ≤ (writeField n).length := le_length_writePadded 2 n
  cases f with
  | year y => exact Nat.le_of_succ_le (le_length_writeYear y)
  | yearMonth y m =>
    have hlength := le_length_writeYear y
    rw [writeFragment, List.length_append]
    omega
  | month m | day m | monthDay m d =>
    have hlength := hfield m
    simp only [writeFragment, List.length_cons, List.length_append]
    omega

end Fragment

/-! ### The year zero -/

/-- The first day of the year zero, which is the year before the year one. -/
def Date.yearZero : Date := ⟨0, 1, 1, by decide, by decide, by decide⟩

namespace Calendar

/-- The year zero is a leap year. -/
theorem yearOfDay_eq_zero {n : Int} (h : yearOfDay n = 0) : 0 ≤ n ∧ n < 366 := by
  have hzero : daysBeforeYear 0 = 0 := by decide
  have hone : daysBeforeYear 1 = 366 := by decide
  unfold yearOfDay at h
  generalize hy : 400 * n / 146097 = y at h
  dsimp only at h
  split at h
  · have hyear : y = 1 := by omega
    subst hyear
    omega
  · split at h
    · have hyear : daysBeforeYear (y + 1) = 0 := by rw [show y + 1 = 0 from h, hzero]
      omega
    · subst h
      omega

/-- Years before the year zero end before its first day, and the others start behind its last. -/
theorem dayNumber_of_year_ne_zero {d : Date} (hd : d.year ≠ 0) :
    d.dayNumber < 0 ∨ 366 ≤ d.dayNumber := by
  obtain ⟨hfirst, hlast⟩ := d.dayNumber_bounds
  have hzero : daysBeforeYear 0 = 0 := by decide
  have hone : daysBeforeYear 1 = 366 := by decide
  have hnear := daysBeforeYear_near d.year
  have hnext := daysBeforeYear_near (d.year + 1)
  rcases Int.lt_trichotomy d.year 0 with hneg | heq | hpos
  · left
    rcases Int.lt_or_eq_of_le (Int.add_one_le_of_lt hneg) with hlt | hend
    · omega
    · rw [hend] at hlast
      omega
  · exact absurd heq hd
  · right
    rcases Int.lt_or_eq_of_le (Int.add_one_le_of_lt hpos) with hlt | hend
    · omega
    · rw [show d.year = 1 by omega] at hfirst
      omega

end Calendar

/-- The day behind one of another year lies in the year zero only as its first day. -/
theorem Date.addDays?_yearZero {d e : Date} (hd : d.year ≠ 0) (h : d.addDays? 1 = some e)
    (he : e.year = 0) : e = .yearZero := by
  have hyear : yearOfDay (d.dayNumber + 1) = 0 := by
    rw [← he]
    exact (ofFields?_eq_some h).1.symm
  have hday := yearOfDay_eq_zero hyear
  have hnumber : d.dayNumber + 1 = 0 := by
    rcases dayNumber_of_year_ne_zero hd with hbefore | hbehind <;> omega
  have hfirst : Date.ofDayNumber? 0 = some .yearZero := by decide
  rw [addDays?, hnumber, hfirst] at h
  exact (Option.some.inj h).symm

/-! ### What literals have -/

namespace Calendar

theorem gives_yearOf (n : Int) : Gives (yearOf n) IsYear := by
  refine Gives.bind fun year => ?_
  split
  · exact Gives.error _
  · next hne => exact Gives.ok ⟨hne, year.low_le, year.le_high⟩

theorem gives_readYear (s : List Char) : Gives (readYear s) IsYear := by
  unfold readYear
  split
  dsimp only
  split
  · exact Gives.error _
  · exact gives_yearOf _

/-- A timezone at the end is one that is written in full minutes up to fourteen hours. -/
theorem gives_takeZone (s : List Char) : Gives (takeZone s) fun r => IsZone? r.2 := by
  unfold takeZone
  split
  · refine Gives.ok ?_
    rintro o ⟨⟩
    exact ⟨by decide, by decide⟩
  · split
    · refine Gives.ok ?_
      rintro o ⟨⟩
    · refine Gives.bind fun hours => Gives.bind fun minutes => ?_
      dsimp only
      split
      · exact Gives.error _
      · next hbounds =>
        refine Gives.bind_of (p := IsZone) (Reading.gives_orOutOfRange fun o ho => ?_) fun o ho =>
          Gives.ok ?_
        · have hval := Bounded.ofInt?_eq_some_iff.1 ho
          unfold IsZone
          split at hval <;> omega
        · rintro o' ⟨⟩
          exact ho

theorem gives_readDateFields (s : List Char) :
    Gives (readDateFields s) fun d => d.year ≠ 0 := by
  refine Gives.bind fun _ => Gives.bind fun _ => Gives.bind_of (gives_readYear _) fun y hy =>
    Gives.bind fun _ => Gives.bind fun _ => Reading.gives_orOutOfRange fun d hd => ?_
  rw [(Date.ofFields?_eq_some hd).1]
  exact hy.1

/-- The end of a day is given as midnight. -/
theorem gives_readClockFields (s : List Char) :
    Gives (readClockFields s) fun r => r.2 = true → r.1 = .midnight := by
  refine Gives.bind fun _ => Gives.bind fun _ => Gives.bind fun _ => Gives.bind fun _ =>
    Gives.bind fun _ => Gives.ite (fun _ => Gives.error _) fun _ => ?_
  refine Gives.ite (fun _ => Gives.ite (fun _ => Gives.ok fun _ => rfl) fun _ => Gives.error _)
    fun _ => Gives.bind fun _ => Gives.ok ?_
  intro h
  cases h

/-- Only the end of a day can lead into the year zero, and only to its start. -/
theorem gives_readDateTime (s : List Char) :
    Gives (readDateTime s) fun r =>
      (r.1.date.year ≠ 0 ∨ r.1 = .startOf .yearZero) ∧ IsZone? r.2 := by
  refine Gives.bind_of (gives_takeZone _) fun (body, zone) hzone => ?_
  refine Gives.bind fun (date, time) => ?_
  refine Gives.bind_of (gives_readDateFields date) fun d hd => ?_
  refine Gives.bind_of (gives_readClockFields time) fun (clock, endOfDay) hclock => ?_
  dsimp only at hzone hclock ⊢
  cases endOfDay with
  | false => exact Gives.ok ⟨.inl hd, hzone⟩
  | true =>
    rw [hclock rfl]
    refine Gives.bind_of (p := fun e => e.year = 0 → e = .yearZero)
      (Reading.gives_orOutOfRange fun e he hyear => Date.addDays?_yearZero hd he hyear)
      fun e he => Gives.ok ⟨?_, hzone⟩
    by_cases hyear : e.year = 0
    · rw [he hyear]
      exact .inr rfl
    · exact .inl hyear

theorem gives_readDate (s : List Char) :
    Gives (readDate s) fun r => r.1.year ≠ 0 ∧ IsZone? r.2 :=
  Gives.bind_of (gives_takeZone _) fun (body, _) hzone =>
    Gives.bind_of (gives_readDateFields body) fun _ hd => Gives.ok ⟨hd, hzone⟩

theorem gives_readTime (s : List Char) : Gives (readTime s) fun r => IsZone? r.2 :=
  Gives.bind_of (gives_takeZone _) fun _ hzone => Gives.bind fun _ => Gives.ok hzone

end Calendar

namespace Fragment

theorem gives_readFields_isYear (s : List Char) (k : FragmentKind) :
    Gives (readFields s k) fun f => ∀ y, f.year? = some y → IsYear y := by
  cases k with
  | year =>
    refine Gives.map_of (gives_readYear s) fun y hy => ?_
    rintro y' ⟨⟩
    exact hy
  | yearMonth =>
    refine Gives.bind fun _ => Gives.bind_of (gives_readYear _) fun y hy => Gives.bind fun m =>
      Gives.ok ?_
    rintro y' ⟨⟩
    exact hy
  | month =>
    refine Gives.bind fun _ => Gives.bind fun m => Gives.ok ?_
    rintro y' ⟨⟩
  | day =>
    refine Gives.bind fun _ => Gives.bind fun d => Gives.ok ?_
    rintro y' ⟨⟩
  | monthDay =>
    refine Gives.bind fun _ => Gives.bind fun _ => Gives.bind fun m => Gives.bind fun d => ?_
    split
    · exact Gives.error _
    · refine Gives.ok ?_
      rintro y' ⟨⟩

theorem gives_read_literal (k : FragmentKind) (s : List Char) :
    Gives (read k s) fun r => (r.1.kind = k ∧ r.1.Literal) ∧ IsZone? r.2 := by
  refine Gives.bind_of (gives_takeZone _) fun (body, zone) hzone => ?_
  intro r hr
  cases hfields : readFields body k with
  | error e =>
    simp only [hfields, bind, Except.bind] at hr
    cases hr
  | ok f =>
    simp only [hfields, bind, Except.bind] at hr
    cases hr
    exact ⟨⟨gives_readFields body k f hfields, gives_readFields_proper body k f hfields,
      gives_readFields_isYear body k f hfields⟩, hzone⟩

end Fragment

/-! ### Casts -/

/-- The types of dates, times and fragments of dates. -/
def AtomicType.isTemporal : AtomicType → Bool
  | dateTime | date | time | fragment _ => true
  | _ => false

namespace Atomic

variable {target : AtomicType} {v : Atomic} {ctx : ValueContext}

/-- A literal of a type of dates or times, as a value. -/
def readTemporal (target : AtomicType) (s : List Char) : Reading Atomic :=
  match target with
  | .dateTime => (readDateTime s).map fun (t, zone) => dateTime t zone
  | .date => (readDate s).map fun (d, zone) => date d zone
  | .time => (readTime s).map fun (c, zone) => time c zone
  | .fragment k => (Fragment.read k s).map fun (f, zone) => fragment f zone
  | _ => .error .malformed

/-- The values that literals of a type have. The year zero is one only at its start, as the end
    of the day before. -/
inductive Denoted : AtomicType → Atomic → Prop where
  | dateTime {t : DateTime} {zone : Option Offset}
    (ht : t.date.year ≠ 0 ∨ t = .startOf .yearZero) (hzone : IsZone? zone) :
    Denoted .dateTime (dateTime t zone)
  | date {d : Date} {zone : Option Offset} (hd : d.year ≠ 0) (hzone : IsZone? zone) :
    Denoted .date (date d zone)
  | time {c : Clock} {zone : Option Offset} (hzone : IsZone? zone) : Denoted .time (time c zone)
  | fragment {f : Fragment} {zone : Option Offset} (hf : f.Literal) (hzone : IsZone? zone) :
    Denoted (.fragment f.kind) (fragment f zone)

theorem gives_readTemporal (target : AtomicType) (s : List Char) :
    Gives (readTemporal target s) (Denoted target) := by
  unfold readTemporal
  split
  · exact Gives.map_of (gives_readDateTime s) fun r hr => .dateTime hr.1 hr.2
  · exact Gives.map_of (gives_readDate s) fun r hr => .date hr.1 hr.2
  · exact Gives.map_of (gives_readTime s) fun r hr => .time hr
  · refine Gives.map_of (Fragment.gives_read_literal _ s) fun (f, zone) hr => ?_
    obtain ⟨⟨hkind, hf⟩, hzone⟩ := hr
    subst hkind
    exact .fragment hf hzone
  · exact Gives.error _

theorem castLiteral_map {α : Type} (s : String) (target : AtomicType)
    (read : List Char → Reading α) (make : α → Atomic) :
    (castLiteral (str s) target read).map make =
      ofReading s target ((read (literalOf s)).map make) := by
  simp only [castLiteral, source?]
  cases read (literalOf s) <;> rfl

/-- A cast of a text reads a literal. -/
theorem cast_str_temporal (ht : target.isTemporal = true) (s : String) (ctx : ValueContext) :
    (str s).cast target ctx = ofReading s target (readTemporal target (literalOf s)) := by
  cases target with
  | dateTime => exact castLiteral_map s .dateTime readDateTime fun (t, zone) => dateTime t zone
  | date => exact castLiteral_map s .date readDate fun (d, zone) => date d zone
  | time => exact castLiteral_map s .time readTime fun (c, zone) => time c zone
  | fragment k =>
    exact castLiteral_map s (.fragment k) (Fragment.read k) fun (f, zone) => fragment f zone
  | _ => cases ht

/-- The start of the year zero, with a timezone or without one. -/
def AtYearZero (v : Atomic) : Prop := ∃ zone, v = dateTime (.startOf .yearZero) zone

theorem isSolid_writeDateTime (t : DateTime) : isSolid (writeDateTime t) = true := by
  have hdate := isSolid_of_all_isPlain (writeDate_all_isPlain t.date)
  simp [writeDateTime, hdate, isUnicodeSpace]

/-- The date and the time of a date-time are cut apart at the `T`. -/
theorem readDateTime_write (t : DateTime) {zone : Option Offset} (hzone : IsZone? zone) :
    readDateTime (writeDateTime t ++ writeZone zone) =
      (readDateFields (writeDate t.date) >>= fun d => .ok (⟨d, t.clock⟩, zone)) := by
  have hmark : 'T' ∉ writeDate t.date := by
    intro hmem
    exact absurd (List.all_eq_true.1 (writeDate_all_isPlain t.date) 'T' hmem) (by decide)
  have hunzoned : Unzoned (writeDateTime t) := by
    have hclock := unzoned_writeClock (writeDate t.date ++ ['T']) t.clock
    rwa [List.append_assoc] at hclock
  simp only [readDateTime, takeZoneTrimmed_writeZone hunzoned (isSolid_writeDateTime t) hzone,
    bind, Except.bind]
  simp only [writeDateTime, splitFirst_append hmark, orMalformed, readClockFields_writeClock]
  cases readDateFields (writeDate t.date) <;> rfl

theorem readDate_write (d : Date) {zone : Option Offset} (hzone : IsZone? zone) :
    readDate (writeDate d ++ writeZone zone) =
      (readDateFields (writeDate d) >>= fun d => .ok (d, zone)) := by
  have hsolid := isSolid_of_all_isPlain (writeDate_all_isPlain d)
  simp only [readDate, takeZoneTrimmed_writeZone (unzoned_writeDate d) hsolid hzone, bind,
    Except.bind]
  rfl

theorem readTime_write (c : Clock) {zone : Option Offset} (hzone : IsZone? zone) :
    readTime (writeClock c ++ writeZone zone) = .ok (c, zone) := by
  have hunzoned : Unzoned (writeClock c) := unzoned_writeClock [] c
  simp only [readTime, takeZoneTrimmed_writeZone hunzoned (isSolid_writeClock c) hzone, bind,
    Except.bind, readClockFields_writeClock]
  rfl

theorem read_writeFragment {f : Fragment} (hf : f.Literal) {zone : Option Offset}
    (hzone : IsZone? zone) :
    Fragment.read f.kind (writeFragment f ++ writeZone zone) = .ok (f, zone) := by
  have hsolid := isSolid_of_all_isPlain (Fragment.writeFragment_all_isPlain f)
  simp only [Fragment.read, bind, Except.bind, Fragment.readFields_writeFragment hf,
    takeZoneTrimmed_writeZone (Fragment.unzoned_writeFragment f) hsolid hzone]
  rfl

/-- The text of a value that a literal has is a literal of it. -/
theorem readTemporal_text (h : Denoted target v) (hv : ¬ v.AtYearZero) :
    readTemporal target v.text.toList = .ok v := by
  cases h with
  | @dateTime t zone ht hzone =>
    have hyear : t.date.year ≠ 0 := ht.resolve_right fun hstart => hv ⟨zone, by rw [hstart]⟩
    simp only [text, String.toList_ofList, readTemporal, readDateTime_write t hzone,
      readDateFields_writeDate hyear]
    rfl
  | date hd hzone =>
    simp only [text, String.toList_ofList, readTemporal, readDate_write _ hzone,
      readDateFields_writeDate hd]
    rfl
  | time hzone =>
    simp only [text, String.toList_ofList, readTemporal, readTime_write _ hzone]
    rfl
  | fragment hf hzone =>
    simp only [text, String.toList_ofList, readTemporal, read_writeFragment hf hzone]
    rfl

/-- The text of the start of the year zero is no literal. -/
theorem readTemporal_text_yearZero (h : Denoted target v) (hv : v.AtYearZero) :
    readTemporal target v.text.toList = .error .outOfRange := by
  obtain ⟨zone, rfl⟩ := hv
  cases h with
  | dateTime ht hzone =>
    have hyear : readDateFields (writeDate .yearZero) = .error .outOfRange :=
      readDateFields_yearZero rfl
    simp only [text, String.toList_ofList, readTemporal, readDateTime_write _ hzone,
      DateTime.startOf, hyear]
    rfl

/-- No white space is trimmed from the text. -/
theorem literalOf_text (h : Denoted target v) : literalOf v.text = v.text.toList := by
  have hsolid : isSolid v.text.toList = true := by
    cases h with
    | dateTime => simp [text, isSolid_writeDateTime, isSolid_writeZone]
    | @date d => simp [text, isSolid_of_all_isPlain (writeDate_all_isPlain d), isSolid_writeZone]
    | time => simp [text, isSolid_writeZone]
    | @fragment f =>
      simp [text, isSolid_of_all_isPlain (Fragment.writeFragment_all_isPlain f), isSolid_writeZone]
  refine trim_eq_self fun c hc => isXmlSpace_le ?_
  simpa using List.all_eq_true.1 hsolid c hc

/-- The text of a date, a time or a fragment that was cast from a string is cast to the same value
    again, with its timezone. Only the start of the year zero is written as a date-time that is
    out of range. -/
theorem temporal_text_read_back {s : String} (ht : target.isTemporal = true)
    (h : (str s).cast target ctx = .ok v) :
    ((str v.text).cast target ctx = .ok v ↔ ¬ v.AtYearZero) ∧
      (v.AtYearZero → (str v.text).cast target ctx = .error (outOfRange v.text target)) := by
  have hdenoted : Denoted target v := by
    rw [cast_str_temporal ht] at h
    exact (gives_readTemporal target (literalOf s)).mapError v h
  rw [cast_str_temporal ht, literalOf_text hdenoted]
  by_cases hv : v.AtYearZero
  · rw [readTemporal_text_yearZero hdenoted hv]
    refine ⟨⟨fun hok => ?_, fun hno => absurd hv hno⟩, fun _ => rfl⟩
    cases hok
  · rw [readTemporal_text hdenoted hv]
    exact ⟨⟨fun _ => hv, fun _ => rfl⟩, fun hyes => absurd hyes hv⟩

/-- A year of five digits, the end of its last day, and an offset. -/
theorem temporal_text_read_back_end_of_year :
    let v : Atomic := .dateTime (.startOf ⟨12345, 1, 1, by decide, by decide, by decide⟩)
      (some ⟨-34200, by decide, by decide⟩)
    AtomicType.dateTime.isTemporal = true ∧
      (str " 12344-12-31T24:00:00.0-09:30 ").cast .dateTime .standard = .ok v ∧
      v.text = "12345-01-01T00:00:00-09:30" ∧
      (str v.text).cast .dateTime .standard = .ok v := by
  intro v
  have hcast : (str " 12344-12-31T24:00:00.0-09:30 ").cast .dateTime .standard = .ok v := by
    decide +kernel
  have hv : ¬ v.AtYearZero := by
    rintro ⟨zone, hzone⟩
    have hyear := congrArg (fun t : DateTime => t.date.year) (Atomic.dateTime.inj hzone).1
    exact absurd hyear (by decide)
  exact ⟨rfl, hcast, by decide +kernel, (temporal_text_read_back rfl hcast).1.2 hv⟩

/-- The end of the day before the year zero is a date-time, but its text is none. -/
theorem year_zero_not_read_back :
    let v : Atomic := .dateTime (.startOf .yearZero) none
    (str "-0001-12-31T24:00:00").cast .dateTime .standard = .ok v ∧
      v.text = "0000-01-01T00:00:00" ∧
      (str v.text).cast .dateTime .standard = .error (outOfRange v.text .dateTime) := by
  decide +kernel

end Atomic

end XPathData
