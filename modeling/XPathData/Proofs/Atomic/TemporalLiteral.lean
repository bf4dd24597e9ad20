import XPathData.Proofs.Calendar.ClockGrammar
import XPathData.Proofs.Calendar.RoundTrip

/-! # Texts cast to dates and times

  A text is cast to a date, a time or a fragment of a date exactly if it is a literal with white
  space around it. A literal is the fields of the type with a timezone behind them or without one.
  The white space may be any that Unicode knows, more than schema text has, and the end of a day
  may be written with a fraction of less than a nanosecond.

  * `Atomic.TemporalLiteral` — the literals and their values
  * `Atomic.readTemporal_eq_ok_iff` — reading finds the literals and no other texts
  * `Atomic.temporal_literals` — which texts are cast, and to what
  * `Atomic.temporal_literals_loose` — two texts that are cast and should not be
-/

namespace XPathData

open Text Reading Calendar

/-! ### Readings of fields with a timezone -/

namespace Calendar

/-- The fields of a time; whether it ends a day does not count. -/
def readTimeFields (s : List Char) : Reading Clock := (readClockFields s).map Prod.fst

theorem readTime_eq (s : List Char) :
    readTime s =
      takeZoneTrimmed s >>= fun p => readTimeFields p.1 >>= fun c => .ok (c, p.2) := by
  refine congrArg (takeZoneTrimmed s >>= ·) (funext fun (body, zone) => ?_)
  dsimp only [readTimeFields]
  cases readClockFields body <;> rfl

theorem readTimeFields_eq_ok_iff {s : List Char} {c : Clock} :
    readTimeFields s = .ok c ↔ ∃ endOfDay, ClockText s c endOfDay := by
  rw [readTimeFields, map_eq_ok_iff]
  constructor
  · rintro ⟨⟨c', endOfDay⟩, hread, rfl⟩
    exact ⟨endOfDay, readClockFields_eq_ok_iff.1 hread⟩
  · rintro ⟨endOfDay, htext⟩
    exact ⟨(c, endOfDay), readClockFields_eq_ok_iff.2 htext, rfl⟩

end Calendar

namespace Atomic

variable {a v : Atomic} {target : AtomicType} {s : List Char} {text : String}

/-! ### Literals -/

/-- A literal of a type of dates or times and its value: the fields that the type has, and perhaps
    a timezone. -/
inductive TemporalLiteral : AtomicType → List Char → Atomic → Prop where
  | dateTime {s t : List Char} {u : DateTime} {zone : Option Offset} (hfields : DateTimeText s u)
    (hzone : ZoneText t zone) : TemporalLiteral .dateTime (s ++ t) (dateTime u zone)
  | date {s t : List Char} {d : Date} {zone : Option Offset} (hfields : DateText s d)
    (hzone : ZoneText t zone) : TemporalLiteral .date (s ++ t) (date d zone)
  | time {s t : List Char} {c : Clock} {endOfDay : Bool} {zone : Option Offset}
    (hfields : ClockText s c endOfDay) (hzone : ZoneText t zone) :
    TemporalLiteral .time (s ++ t) (time c zone)
  | fragment {s t : List Char} {f : Fragment} {zone : Option Offset}
    (hfields : Fragment.FieldsText s f) (hzone : ZoneText t zone) :
    TemporalLiteral (.fragment f.kind) (s ++ t) (fragment f zone)

/-- No literal has white space in it. -/
theorem TemporalLiteral.isSolid (h : TemporalLiteral target s v) : isSolid s = true := by
  cases h with
  | dateTime hfields hzone | time hfields hzone =>
    rw [isSolid_append, hfields.isSolid, hzone.isSolid]
    rfl
  | date hfields hzone | fragment hfields hzone =>
    rw [isSolid_append, isSolid_of_all_isPlain hfields.all_isPlain, hzone.isSolid]
    rfl

/-- A text is read as a value exactly if it is a literal that has it, white space around it left
    out. -/
theorem readTemporal_eq_ok_iff (ht : target.isTemporal = true) :
    readTemporal target s = .ok v ↔ TemporalLiteral target (trim isUnicodeSpace s) v := by
  have hdateTime (u : DateTime) (zone : Option Offset) :
      readDateTime s = .ok (u, zone) ↔
        ∃ body t, trim isUnicodeSpace s = body ++ t ∧ DateTimeText body u ∧ ZoneText t zone := by
    rw [readDateTime_eq]
    exact zoned_eq_ok_iff (fun _ _ => readDateTimeFields_eq_ok_iff) fun _ _ => DateTimeText.unzoned
  have hdate (d : Date) (zone : Option Offset) :
      readDate s = .ok (d, zone) ↔
        ∃ body t, trim isUnicodeSpace s = body ++ t ∧ DateText body d ∧ ZoneText t zone :=
    zoned_eq_ok_iff (fun _ _ => readDateFields_eq_ok_iff) fun _ _ => DateText.unzoned
  have htime (c : Clock) (zone : Option Offset) :
      readTime s = .ok (c, zone) ↔
        ∃ body t, trim isUnicodeSpace s = body ++ t ∧ (∃ endOfDay, ClockText body c endOfDay) ∧
          ZoneText t zone := by
    have hread (body : List Char) (c : Clock) :
        readTimeFields body = .ok c ↔ ∃ endOfDay, ClockText body c endOfDay :=
      readTimeFields_eq_ok_iff
    rw [readTime_eq]
    refine zoned_eq_ok_iff hread ?_
    rintro body c ⟨endOfDay, htext⟩
    exact htext.unzoned []
  have hfragment (k : FragmentKind) (f : Fragment) (zone : Option Offset) :
      Fragment.read k s = .ok (f, zone) ↔
        ∃ body t, trim isUnicodeSpace s = body ++ t ∧
          (Fragment.FieldsText body f ∧ f.kind = k) ∧ ZoneText t zone :=
    zoned_eq_ok_iff (fun _ _ => Fragment.readFields_eq_ok_iff) fun _ _ h => h.1.unzoned
  generalize trim isUnicodeSpace s = literal at hdateTime hdate htime hfragment ⊢
  constructor
  · intro h
    unfold readTemporal at h
    split at h
    · obtain ⟨⟨u, zone⟩, hread, rfl⟩ := map_eq_ok_iff.1 h
      obtain ⟨body, t, rfl, hfields, hzone⟩ := (hdateTime u zone).1 hread
      exact .dateTime hfields hzone
    · obtain ⟨⟨d, zone⟩, hread, rfl⟩ := map_eq_ok_iff.1 h
      obtain ⟨body, t, rfl, hfields, hzone⟩ := (hdate d zone).1 hread
      exact .date hfields hzone
    · obtain ⟨⟨c, zone⟩, hread, rfl⟩ := map_eq_ok_iff.1 h
      obtain ⟨body, t, rfl, ⟨endOfDay, hfields⟩, hzone⟩ := (htime c zone).1 hread
      exact .time hfields hzone
    · obtain ⟨⟨f, zone⟩, hread, rfl⟩ := map_eq_ok_iff.1 h
      obtain ⟨body, t, rfl, ⟨hfields, rfl⟩, hzone⟩ := (hfragment _ f zone).1 hread
      exact .fragment hfields hzone
    · cases h
  · intro h
    cases h with
    | dateTime hfields hzone =>
      exact map_eq_ok_iff.2 ⟨_, (hdateTime _ _).2 ⟨_, _, rfl, hfields, hzone⟩, rfl⟩
    | date hfields hzone =>
      exact map_eq_ok_iff.2 ⟨_, (hdate _ _).2 ⟨_, _, rfl, hfields, hzone⟩, rfl⟩
    | time hfields hzone =>
      exact map_eq_ok_iff.2 ⟨_, (htime _ _).2 ⟨_, _, rfl, ⟨_, hfields⟩, hzone⟩, rfl⟩
    | fragment hfields hzone =>
      exact map_eq_ok_iff.2 ⟨_, (hfragment _ _ _).2 ⟨_, _, rfl, ⟨hfields, rfl⟩, hzone⟩, rfl⟩

/-! ### Casts -/

/-- Strings of all kinds and untyped values are cast like their text. -/
theorem cast_of_source (ht : target.isTemporal = true) (hsource : a.source? = some text)
    (ctx : ValueContext) : a.cast target ctx = (str text).cast target ctx := by
  cases a with
  | untyped _ | string _ _ =>
    cases hsource
    cases target with
    | dateTime | date | time | fragment k => rfl
    | _ => cases ht
  | _ => cases hsource

theorem ofReading_eq_ok_iff {α : Type} {r : Reading α} {x : α} :
    ofReading text target r = .ok x ↔ r = .ok x := by
  cases r <;> simp [ofReading, Except.mapError]

theorem isUnicodeSpace_of_isXmlSpace {c : Char} (h : isXmlSpace c = true) :
    isUnicodeSpace c = true := by
  cases hspace : isUnicodeSpace c with
  | true => rfl
  | false =>
    rw [isXmlSpace_le hspace] at h
    cases h

/-- The text of a string or an untyped value is cast to a date, a time or a fragment of a date
    exactly if it is a literal of the type with white space around it, and the result is the value
    of the literal. -/
theorem temporal_literals (ht : target.isTemporal = true) (hsource : a.source? = some text)
    (ctx : ValueContext) :
    a.cast target ctx = .ok v ↔
      ∃ before literal after, text.toList = before ++ literal ++ after ∧
        (∀ c ∈ before ++ after, isUnicodeSpace c = true) ∧ TemporalLiteral target literal v := by
  have htrim : trim isUnicodeSpace (literalOf text) = trim isUnicodeSpace text.toList :=
    trim_trim (fun _ => isUnicodeSpace_of_isXmlSpace) text.toList
  have hcast : a.cast target ctx = .ok v ↔
      TemporalLiteral target (trim isUnicodeSpace text.toList) v := by
    rw [cast_of_source ht hsource, cast_str_temporal ht, ofReading_eq_ok_iff,
      readTemporal_eq_ok_iff ht, htrim]
  rw [hcast]
  constructor
  · intro h
    obtain ⟨before, after, htext, hblank⟩ := exists_trim isUnicodeSpace text.toList
    exact ⟨before, _, after, htext, hblank, h⟩
  · rintro ⟨before, literal, after, htext, hblank, h⟩
    -- Literals have no white space, so that trimming leaves them as they are.
    have hsolid : ∀ c ∈ literal, isUnicodeSpace c = false := by
      intro c hc
      simpa using List.all_eq_true.1 h.isSolid c hc
    rw [htext, trim_append hblank hsolid]
    exact h

/-- The middle of the last second of a leap day, with white space around it. -/
theorem temporal_literals_leap_day :
    let text := "\t2024-02-29T23:59:59.5-05:30 "
    let day : Date := ⟨2024, 2, 29, by decide, by decide, by decide⟩
    let v := dateTime ⟨day, ⟨86399500000000, by decide⟩⟩ (some ⟨-19800, by decide, by decide⟩)
    AtomicType.dateTime.isTemporal = true ∧ (str text).source? = some text ∧
      (str text).cast .dateTime .standard = .ok v ∧
      ∃ before literal after, text.toList = before ++ literal ++ after ∧
        (∀ c ∈ before ++ after, isUnicodeSpace c = true) ∧
          TemporalLiteral .dateTime literal v := by
  intro text day v
  have hcast : (str text).cast .dateTime .standard = .ok v := by decide +kernel
  exact ⟨rfl, rfl, hcast, (temporal_literals rfl rfl .standard).1 hcast⟩

/-- A date behind a no-break space, which schema text does not have as white space, is cast; and an
    end of the day whose fraction is not zero is cast to midnight. -/
theorem temporal_literals_loose :
    let text := "\u00a02024-02-29"
    let fraction := "0000000001"
    (∃ v, (str text).cast .date .standard = .ok v) ∧
      (¬ ∃ before literal after v, text.toList = before ++ literal ++ after ∧
        (∀ c ∈ before ++ after, isXmlSpace c = true) ∧ TemporalLiteral .date literal v) ∧
      (str ("24:00:00." ++ fraction)).cast .time .standard = .ok (time .midnight none) ∧
      readDigits fraction.toList ≠ 0 := by
  intro text fraction
  refine ⟨?_, ?_, ?_, ?_⟩
  · exact ⟨date ⟨2024, 2, 29, by decide, by decide, by decide⟩ none, by decide +kernel⟩
  · rintro ⟨before, literal, after, v, htext, hblank, h⟩
    -- The space in front belongs neither to the white space nor to a literal.
    have hmem : '\u00a0' ∈ text.toList := by decide +kernel
    rw [htext, List.mem_append, List.mem_append] at hmem
    rcases hmem with (hmem | hmem) | hmem
    · exact absurd (hblank _ (List.mem_append_left after hmem)) (by decide)
    · exact absurd (List.all_eq_true.1 h.isSolid _ hmem) (by decide)
    · exact absurd (hblank _ (List.mem_append_right before hmem)) (by decide)
  · decide +kernel
  · decide

end Atomic

end XPathData
