import XPathData.Proofs.Atomic.Exchange
import XPathData.Proofs.Calendar.RoundTrip

/-! # The ends of the calendar

  Dates and times are brought to UTC before they are compared, subtracted or taken for a key, and
  the way there fails where it leads out of the calendar. An offset is less than a day, so it can
  only do so from the first day of the calendar, earlier than the offset, and from the last day,
  later than the offset leaves of it. Everywhere else the operations have a result, or an error
  that a caller may handle.

  * `Date.ofDayNumber?_eq_none_iff` — which day numbers have no date
  * `DateTime.toUtc?_eq_none_iff` — which date-times cannot be brought to UTC
  * `Atomic.temporal_outOfCalendar` — comparison, key and difference fail on these alone
-/

namespace XPathData

open Calendar

/-! ### The days of the calendar -/

namespace Calendar

theorem daysBeforeYear_mono {y z : Int} (h : y ≤ z) : daysBeforeYear y ≤ daysBeforeYear z := by
  unfold daysBeforeYear
  omega

/-- A day lies in the year that is found for it. -/
theorem yearOfDay_spec (n : Int) :
    daysBeforeYear (yearOfDay n) ≤ n ∧ n < daysBeforeYear (yearOfDay n + 1) := by
  unfold yearOfDay
  generalize hy : 400 * n / 146097 = y
  have hbefore := daysBeforeYear_near (y - 1)
  have hafter := daysBeforeYear_near (y + 2)
  dsimp only
  -- The mean length of a year gives the year, or one beside it.
  split
  · rw [Int.sub_add_cancel]
    omega
  · split
    · rw [show y + 1 + 1 = y + 2 by omega]
      omega
    · omega

/-- A day of the first months of a year lies in one of them. -/
theorem exists_month (y : Int) {i m : Nat} (h : i < daysBeforeMonth y (m + 1)) :
    ∃ k, 1 ≤ k ∧ k ≤ m ∧ daysBeforeMonth y k ≤ i ∧ i < daysBeforeMonth y (k + 1) := by
  induction m with
  | zero => exact absurd h (Nat.not_lt_zero i)
  | succ m ih =>
    by_cases hm : i < daysBeforeMonth y (m + 1)
    · obtain ⟨k, hk, hkm, hstart, hend⟩ := ih hm
      exact ⟨k, hk, Nat.le_succ_of_le hkm, hstart, hend⟩
    · exact ⟨m + 1, Nat.le_add_left 1 m, Nat.le_refl _, Nat.le_of_not_lt hm, h⟩

end Calendar

namespace Date

/-- The first day of the calendar. -/
def firstDay : Date := (ofFields? firstYear 1 1).get (by decide)

/-- The last day of the calendar. -/
def lastDay : Date := (ofFields? lastYear 12 31).get (by decide)

theorem dayNumber_firstDay : firstDay.dayNumber = daysBeforeYear firstYear := by decide

theorem dayNumber_lastDay : lastDay.dayNumber = daysBeforeYear (lastYear + 1) - 1 := by decide

/-- Between the first and the last day there is no gap. -/
theorem exists_dayNumber {n : Int} (hfirst : firstDay.dayNumber ≤ n)
    (hlast : n ≤ lastDay.dayNumber) : ∃ d : Date, d.dayNumber = n := by
  rw [dayNumber_firstDay] at hfirst
  rw [dayNumber_lastDay] at hlast
  obtain ⟨hstart, hend⟩ := yearOfDay_spec n
  generalize yearOfDay n = y at hstart hend
  have hyear : firstYear ≤ y ∧ y ≤ lastYear := by
    constructor
    · by_contra hlt
      have := daysBeforeYear_mono (show y + 1 ≤ firstYear by omega)
      omega
    · by_contra hlt
      have := daysBeforeYear_mono (show lastYear + 1 ≤ y by omega)
      omega
  obtain ⟨i, hi⟩ : ∃ i : Nat, n = daysBeforeYear y + i := ⟨(n - daysBeforeYear y).toNat, by omega⟩
  have hinYear : i < daysBeforeMonth y 13 := by
    rw [daysBeforeYear_succ_months] at hend
    omega
  obtain ⟨m, hm, hm12, hmonth, hnext⟩ := exists_month y (m := 12) hinYear
  rw [daysBeforeMonth_succ y hm] at hnext
  refine ⟨⟨y, m, i - daysBeforeMonth y m + 1, hyear, ⟨hm, hm12⟩, by omega, by omega⟩, ?_⟩
  unfold dayNumber
  dsimp only
  omega

theorem dayNumber_mem (d : Date) :
    firstDay.dayNumber ≤ d.dayNumber ∧ d.dayNumber ≤ lastDay.dayNumber := by
  have hbounds := d.dayNumber_bounds
  have hfirst := daysBeforeYear_mono d.year_bounds.1
  have hlast := daysBeforeYear_mono (show d.year + 1 ≤ lastYear + 1 by
    have := d.year_bounds.2
    omega)
  rw [dayNumber_firstDay, dayNumber_lastDay]
  omega

theorem dayNumber_inj {d e : Date} (h : d.dayNumber = e.dayNumber) : d = e := by
  have hd := d.ofDayNumber?_dayNumber
  rw [h, e.ofDayNumber?_dayNumber] at hd
  exact (Option.some.inj hd).symm

/-- Only numbers before the first and behind the last day have no date. -/
theorem ofDayNumber?_eq_none_iff {n : Int} :
    ofDayNumber? n = none ↔ n < firstDay.dayNumber ∨ lastDay.dayNumber < n := by
  constructor
  · intro h
    by_contra hin
    obtain ⟨d, rfl⟩ := exists_dayNumber (n := n) (by omega) (by omega)
    rw [d.ofDayNumber?_dayNumber] at h
    cases h
  · intro hout
    cases h : ofDayNumber? n with
    | none => rfl
    | some d =>
      -- The year that is found for the number is the year of the date.
      have hyear : d.year = yearOfDay n := (ofFields?_eq_some h).1
      obtain ⟨hstart, hend⟩ := yearOfDay_spec n
      have hfirst := daysBeforeYear_mono (hyear ▸ d.year_bounds.1)
      have hlast := daysBeforeYear_mono (show yearOfDay n + 1 ≤ lastYear + 1 by
        have := d.year_bounds.2
        omega)
      rw [dayNumber_firstDay, dayNumber_lastDay] at hout
      omega

end Date

namespace DateTime

/-- The way to UTC leads out of the calendar: from its first day, earlier than local time is
    ahead, or from its last day, later than local time lies behind. -/
def LeavesCalendar (t : DateTime) (o : Offset) : Prop :=
  (t.date = .firstDay ∧ (t.clock.nanos : Int) < o.nanos) ∨
    (t.date = .lastDay ∧ nanosPerDay + o.nanos ≤ t.clock.nanos)

theorem toUtc?_eq_none_iff {t : DateTime} {o : Offset} :
    t.toUtc? o = none ↔ t.LeavesCalendar o := by
  have hclock := t.clock.nanos_lt
  have hoffset : -(nanosPerDay : Int) < o.nanos ∧ o.nanos < nanosPerDay := by
    have hlow := o.low_le
    have hhigh := o.le_high
    simp only [Offset.nanos, nanosPerDay, nanosPerSecond]
    omega
  have hmem := t.date.dayNumber_mem
  have hfirst : t.date = .firstDay ↔ t.date.dayNumber = Date.firstDay.dayNumber :=
    ⟨fun h => h ▸ rfl, Date.dayNumber_inj⟩
  have hlast : t.date = .lastDay ↔ t.date.dayNumber = Date.lastDay.dayNumber :=
    ⟨fun h => h ▸ rfl, Date.dayNumber_inj⟩
  -- What is left is about day numbers: the way to UTC changes them by one at most.
  rw [toUtc?, shift?, ofNanos?, Option.map_eq_none_iff, Date.ofDayNumber?_eq_none_iff,
    LeavesCalendar, hfirst, hlast, nanos]
  generalize t.date.dayNumber = day at *
  generalize Date.firstDay.dayNumber = first at *
  generalize Date.lastDay.dayNumber = last at *
  generalize o.nanos = off at *
  generalize t.clock.nanos = clock at *
  have hday : (nanosPerDay : Int) = 86400000000000 := by decide
  have hday' : nanosPerDay = 86400000000000 := by decide
  rw [hday] at *
  rw [hday'] at hclock
  omega

end DateTime

/-! ### Operations -/

namespace Atomic

variable {a b : Atomic} {ctx : ValueContext}

/-- The time of the value, if it has one, leaves the calendar on its way to UTC. -/
def LeavesCalendar (ctx : ValueContext) (a : Atomic) : Prop :=
  ∃ t, a.localTime? = some t ∧ t.1.LeavesCalendar (ctx.zoneOf t.2)

theorem leavesCalendar_iff {t : DateTime × Option Offset} (ht : a.localTime? = some t) :
    a.LeavesCalendar ctx ↔ t.1.LeavesCalendar (ctx.zoneOf t.2) := by
  constructor
  · rintro ⟨u, hu, hleaves⟩
    rw [ht] at hu
    cases hu
    exact hleaves
  · exact fun hleaves => ⟨t, ht, hleaves⟩

theorem not_leavesCalendar (ht : a.localTime? = none) : ¬ a.LeavesCalendar ctx := by
  rintro ⟨t, h, -⟩
  rw [ht] at h
  cases h

theorem staysInCalendar_iff : a.staysInCalendar ctx = true ↔ ¬ a.LeavesCalendar ctx := by
  cases ht : a.localTime? with
  | some t =>
    rw [leavesCalendar_iff ht, ← DateTime.toUtc?_eq_none_iff, staysInCalendar, ht]
    exact Option.isSome_iff_ne_none
  | none =>
    rw [staysInCalendar, ht]
    exact ⟨fun _ => not_leavesCalendar ht, fun _ => rfl⟩

theorem toUtc_outOfCalendar_iff {t : DateTime} {zone : Option Offset} :
    toUtc t zone ctx = .error .outOfCalendar ↔ t.LeavesCalendar (ctx.zoneOf zone) := by
  rw [← DateTime.toUtc?_eq_none_iff]
  unfold toUtc
  cases t.toUtc? (ctx.zoneOf zone) with
  | some u => exact ⟨nofun, nofun⟩
  | none => exact ⟨fun _ => rfl, fun _ => rfl⟩

theorem exists_toUtc_of_stays {t : DateTime} {zone : Option Offset}
    (h : ¬ t.LeavesCalendar (ctx.zoneOf zone)) : ∃ u, toUtc t zone ctx = .ok u := by
  cases hu : toUtc t zone ctx with
  | ok u => exact ⟨u, rfl⟩
  | error e =>
    have he := toUtc_eq_error hu
    subst he
    exact absurd (toUtc_outOfCalendar_iff.1 hu) h

/-- What is done with two instants is done where both are there. -/
theorem bind_outOfCalendar_iff {α β : Type} {x y : Outcome α} {f : α → α → Outcome β}
    (hx : ∀ e, x = .error e → e = .outOfCalendar) (hy : ∀ e, y = .error e → e = .outOfCalendar)
    (hf : ∀ u v, x = .ok u → y = .ok v → f u v ≠ .error .outOfCalendar) :
    (do let u ← x; let v ← y; f u v : Outcome β) = .error .outOfCalendar ↔
      x = .error .outOfCalendar ∨ y = .error .outOfCalendar := by
  cases x with
  | error e =>
    have he := hx e rfl
    subst he
    exact ⟨fun _ => .inl rfl, fun _ => rfl⟩
  | ok u =>
    cases y with
    | error e =>
      have he := hy e rfl
      subst he
      exact ⟨fun _ => .inr rfl, fun _ => rfl⟩
    | ok v =>
      constructor
      · intro h
        exact absurd h (hf u v rfl rfl)
      · rintro (h | h) <;> cases h

/-! ### Comparison -/

theorem compareBy_outOfCalendar_iff {op : ComparisonOp} :
    compareBy op a b ctx = .error .outOfCalendar ↔
      relate? a b ctx = some (.error .outOfCalendar) := by
  rw [compareBy, relate?_untypedAsString]
  cases relate? a b ctx with
  | none => simp [notComparable]
  | some r =>
    cases r with
    | error e => simp [Except.bind]
    | ok r => cases hop : decideOp op r <;> simp [Except.bind, hop, notComparable]

theorem fragmentInstant_outOfCalendar_iff {f : Fragment} {zone : Option Offset} :
    fragmentInstant f zone ctx = .error .outOfCalendar ↔
      (fragment f zone).LeavesCalendar ctx := by
  cases hstart : f.start? with
  | none =>
    have hlocal := localTime?_of_none hstart zone
    rw [fragmentInstant_of_none hstart]
    exact ⟨nofun, fun h => absurd h (not_leavesCalendar hlocal)⟩
  | some t =>
    have hlocal := localTime?_of_start hstart zone
    rw [fragmentInstant_of_start hstart, leavesCalendar_iff hlocal, ← toUtc_outOfCalendar_iff]
    cases toUtc t zone ctx <;> simp [Except.map]

theorem ground_of_isTemporal {t : AtomicType} (h : t.isTemporal = true) : t.ground = t := by
  cases t <;> first | rfl | cases h

/-- Dates and times that are no fragments have a local time. -/
theorem exists_localTime (ha : a.type.isTemporal = true) (hkind : ∀ k, a.type ≠ .fragment k) :
    ∃ t, a.localTime? = some t := by
  cases a with
  | dateTime t zone | date d zone | time c zone => exact ⟨_, rfl⟩
  | fragment f zone => exact absurd rfl (hkind f.kind)
  | _ => cases ha

theorem exists_fragment {k : FragmentKind} (h : a.type = .fragment k) :
    ∃ f zone, a = fragment f zone ∧ f.kind = k := by
  cases a with
  | fragment f zone => exact ⟨f, zone, rfl, AtomicType.fragment.inj h⟩
  | _ => cases h

/-- The relation of dates and times of one type fails where one of them leaves the calendar. -/
theorem relate?_outOfCalendar_iff (ha : a.type.isTemporal = true)
    (hb : b.type.isTemporal = true) :
    relate? a b ctx = some (.error .outOfCalendar) ↔
      a.type = b.type ∧ (a.LeavesCalendar ctx ∨ b.LeavesCalendar ctx) := by
  by_cases htype : a.type = b.type
  · rw [and_iff_right htype]
    by_cases hkind : ∃ k, a.type = .fragment k
    · obtain ⟨k, hk⟩ := hkind
      obtain ⟨f, fZone, rfl, hf⟩ := exists_fragment hk
      obtain ⟨g, gZone, rfl, hg⟩ := exists_fragment (htype ▸ hk)
      rw [relate?_fragments (hf.trans hg.symm), Option.some.injEq,
        bind_outOfCalendar_iff (fun e => fragmentInstant_eq_error)
          (fun e => fragmentInstant_eq_error),
        fragmentInstant_outOfCalendar_iff, fragmentInstant_outOfCalendar_iff]
      intro u v _ _ h
      cases h
    · have hkind' : ∀ k, a.type ≠ .fragment k := fun k hk => hkind ⟨k, hk⟩
      obtain ⟨s, hs⟩ := exists_localTime ha hkind'
      obtain ⟨t, ht⟩ := exists_localTime hb fun k hk => hkind' k (htype.trans hk)
      rw [relate?_times hs ht htype hkind', Option.some.injEq, compareInstants,
        bind_outOfCalendar_iff (fun e => toUtc_eq_error) (fun e => toUtc_eq_error),
        toUtc_outOfCalendar_iff, toUtc_outOfCalendar_iff, leavesCalendar_iff hs,
        leavesCalendar_iff ht]
      intro u v _ _ h
      cases h
  · have hground : a.type.ground ≠ b.type.ground := by
      rwa [ground_of_isTemporal ha, ground_of_isTemporal hb]
    rw [relate?_eq_none hground]
    exact iff_of_false (Option.some_ne_none _).symm fun h => htype h.1

/-! ### Keys -/

theorem key_outOfCalendar_iff :
    EqualityKey.of a ctx = .error .outOfCalendar ↔ a.LeavesCalendar ctx := by
  cases ht : a.localTime? with
  | some t =>
    rw [EqualityKey.of_localTime ht, leavesCalendar_iff ht, ← toUtc_outOfCalendar_iff]
    cases toUtc t.1 t.2 ctx <;> simp [Except.map]
  | none =>
    obtain ⟨k, hk⟩ := EqualityKey.exists_of (staysInCalendar_iff.2 (not_leavesCalendar ht))
    rw [hk]
    exact ⟨nofun, fun h => absurd h (not_leavesCalendar ht)⟩

/-! ### Differences -/

/-- The time between two points of the calendar is a number of seconds. -/
theorem exists_seconds (u v : DateTime) :
    ∃ seconds, Decimal.ofNanos? (u.nanos - v.nanos) = some seconds := by
  have hspan (t : DateTime) : (t.nanos).natAbs < 2 ^ 95 := by
    have hclock := t.clock.nanos_lt
    have hmem := t.date.dayNumber_mem
    have hfirst : -2 ^ 27 ≤ Date.firstDay.dayNumber := by decide
    have hlast : Date.lastDay.dayNumber ≤ 2 ^ 27 := by decide
    simp only [DateTime.nanos, nanosPerDay, nanosPerSecond] at *
    omega
  have hu := hspan u
  have hv := hspan v
  -- Both points lie in 95 bits, so their difference fits the 96 bits of a coefficient.
  have hparts : (u.nanos - v.nanos).natAbs < coefficientLimit ∧ 9 ≤ 28 := by
    refine ⟨?_, by decide⟩
    unfold coefficientLimit
    omega
  exact ⟨_, by rw [Decimal.ofNanos?, Decimal.ofParts?, dif_pos hparts]; rfl⟩

theorem difference_outOfCalendar_iff {s t : DateTime} {sZone tZone : Option Offset} :
    difference ctx s t sZone tZone = .error .outOfCalendar ↔
      s.LeavesCalendar (ctx.zoneOf sZone) ∨ t.LeavesCalendar (ctx.zoneOf tZone) := by
  rw [difference, bind_outOfCalendar_iff (fun e => toUtc_eq_error) (fun e => toUtc_eq_error),
    toUtc_outOfCalendar_iff, toUtc_outOfCalendar_iff]
  intro u v _ _
  obtain ⟨seconds, hseconds⟩ := exists_seconds u v
  rw [hseconds]
  exact nofun

theorem exists_difference {s t : DateTime} {sZone tZone : Option Offset}
    (hs : ¬ s.LeavesCalendar (ctx.zoneOf sZone)) (ht : ¬ t.LeavesCalendar (ctx.zoneOf tZone)) :
    ∃ seconds, difference ctx s t sZone tZone = .ok (dayTimeDuration seconds) := by
  obtain ⟨u, hu⟩ := exists_toUtc_of_stays hs
  obtain ⟨v, hv⟩ := exists_toUtc_of_stays ht
  obtain ⟨seconds, hseconds⟩ := exists_seconds u v
  refine ⟨seconds, ?_⟩
  simp only [difference, hu, hv, bind, Except.bind, hseconds, pure, Except.pure]

/-- A date or time is subtracted from another one in one way only. -/
theorem arithmetic_sub_temporal (ha : a.type.isTemporal = true) (hb : b.type.isTemporal = true) :
    arithmetic .sub a b ctx =
      (between a b ctx).getD
        (.error (.error (.undefinedOperator "-" a.type.text b.type.text))) := by
  cases a with
  | dateTime | date | time | fragment =>
    cases b <;> first | cases hb; done | rfl
  | _ => cases ha

theorem between_eq_difference {s t : DateTime × Option Offset} (ha : a.localTime? = some s)
    (hb : b.localTime? = some t) (htype : a.type = b.type) (hkind : ∀ k, a.type ≠ .fragment k) :
    between a b ctx = some (difference ctx s.1 t.1 s.2 t.2) := by
  cases a with
  | dateTime | date | time =>
    cases b <;> first | cases htype; done | (cases ha; cases hb; rfl)
  | fragment f zone => exact absurd rfl (hkind f.kind)
  | _ => cases ha

/-- Only dates and times of one type, and no fragments, have a time between them. -/
theorem of_between {r : Outcome Atomic} (h : between a b ctx = some r) :
    a.type = b.type ∧ ∀ k, a.type ≠ .fragment k := by
  unfold between at h
  split at h
  case h_4 => cases h
  all_goals exact ⟨rfl, nofun⟩

theorem sub_outOfCalendar_iff (ha : a.type.isTemporal = true) (hb : b.type.isTemporal = true) :
    arithmetic .sub a b ctx = .error .outOfCalendar ↔
      a.type = b.type ∧ (∀ k, a.type ≠ .fragment k) ∧
        (a.LeavesCalendar ctx ∨ b.LeavesCalendar ctx) := by
  rw [arithmetic_sub_temporal ha hb]
  by_cases hsame : a.type = b.type ∧ ∀ k, a.type ≠ .fragment k
  · obtain ⟨htype, hkind⟩ := hsame
    obtain ⟨s, hs⟩ := exists_localTime ha hkind
    obtain ⟨t, ht⟩ := exists_localTime hb fun k hk => hkind k (htype.trans hk)
    rw [between_eq_difference hs ht htype hkind, Option.getD_some, difference_outOfCalendar_iff,
      leavesCalendar_iff hs, leavesCalendar_iff ht, and_iff_right htype, and_iff_right hkind]
  · cases hbetween : between a b ctx with
    | none => exact ⟨nofun, fun h => absurd ⟨h.1, h.2.1⟩ hsame⟩
    | some r => exact absurd (of_between hbetween) hsame

/-- Two dates or times of one type that stay in the calendar have a time between them. -/
theorem exists_sub (ha : a.type.isTemporal = true) (htype : a.type = b.type)
    (hkind : ∀ k, a.type ≠ .fragment k) (hleavesa : ¬ a.LeavesCalendar ctx)
    (hleavesb : ¬ b.LeavesCalendar ctx) :
    ∃ seconds, arithmetic .sub a b ctx = .ok (dayTimeDuration seconds) := by
  have hb : b.type.isTemporal = true := htype ▸ ha
  obtain ⟨s, hs⟩ := exists_localTime ha hkind
  obtain ⟨t, ht⟩ := exists_localTime hb fun k hk => hkind k (htype.trans hk)
  rw [leavesCalendar_iff hs] at hleavesa
  rw [leavesCalendar_iff ht] at hleavesb
  obtain ⟨seconds, hseconds⟩ := exists_difference hleavesa hleavesb
  refine ⟨seconds, ?_⟩
  rw [arithmetic_sub_temporal ha hb, between_eq_difference hs ht htype hkind, Option.getD_some,
    hseconds]

/-! ### All operations -/

/-- Only the first and the last year have days from which the way to UTC leads out. -/
theorem year_of_leavesCalendar {t : DateTime} {o : Offset} (h : t.LeavesCalendar o) :
    t.date.year = firstYear ∨ t.date.year = lastYear := by
  rcases h with ⟨hdate, -⟩ | ⟨hdate, -⟩
  · exact .inl (congrArg Date.year hdate)
  · exact .inr (congrArg Date.year hdate)

/-- What has no year is placed in the year 1972, far from the ends of the calendar. -/
theorem type_of_leavesCalendar (h : a.LeavesCalendar ctx) :
    a.type = .dateTime ∨ a.type = .date ∨ a.type = .fragment .year ∨
      a.type = .fragment .yearMonth := by
  obtain ⟨t, ht, hleaves⟩ := h
  have hyear := year_of_leavesCalendar hleaves
  have hanchor : ¬ ((1972 : Int) = firstYear ∨ (1972 : Int) = lastYear) := by decide
  cases a with
  | dateTime => exact .inl rfl
  | date => exact .inr (.inl rfl)
  | time c zone =>
    cases ht
    exact absurd hyear hanchor
  | fragment f zone =>
    obtain ⟨s, hs, rfl⟩ := Option.map_eq_some_iff.1 ht
    have hfields {m d : Nat} (h : (Date.ofFields? 1972 m d).map DateTime.startOf = some s) :
        False := by
      obtain ⟨d, hd, rfl⟩ := Option.map_eq_some_iff.1 h
      exact hanchor ((Date.ofFields?_eq_some hd).1 ▸ hyear)
    cases f with
    | year y => exact .inr (.inr (.inl rfl))
    | yearMonth y m => exact .inr (.inr (.inr rfl))
    | month m => exact (hfields hs).elim
    | monthDay m d => exact (hfields hs).elim
    | day d => exact (hfields hs).elim
  | _ => cases ht

/-- Dates, times and fragments of any types: comparing two of them, taking the key of one and
    subtracting one from another have a result, or an error that a caller may handle, unless a
    value that has to be brought to UTC leaves the calendar on the way. Values without a year
    never do. Of two values of one type that stay in the calendar the difference is known. -/
theorem temporal_outOfCalendar (ha : a.type.isTemporal = true) (hb : b.type.isTemporal = true) :
    (∀ op, compareBy op a b ctx = .error .outOfCalendar ↔
      a.type = b.type ∧ (a.LeavesCalendar ctx ∨ b.LeavesCalendar ctx)) ∧
    (EqualityKey.of a ctx = .error .outOfCalendar ↔ a.LeavesCalendar ctx) ∧
    (arithmetic .sub a b ctx = .error .outOfCalendar ↔
      a.type = b.type ∧ (∀ k, a.type ≠ .fragment k) ∧
        (a.LeavesCalendar ctx ∨ b.LeavesCalendar ctx)) ∧
    (a.type = b.type → (∀ k, a.type ≠ .fragment k) → ¬ a.LeavesCalendar ctx →
      ¬ b.LeavesCalendar ctx →
      ∃ seconds, arithmetic .sub a b ctx = .ok (dayTimeDuration seconds)) ∧
    (a.LeavesCalendar ctx →
      a.type = .dateTime ∨ a.type = .date ∨ a.type = .fragment .year ∨
        a.type = .fragment .yearMonth) := by
  refine ⟨?_, key_outOfCalendar_iff, sub_outOfCalendar_iff ha hb, exists_sub ha,
    type_of_leavesCalendar⟩
  intro op
  rw [compareBy_outOfCalendar_iff, relate?_outOfCalendar_iff ha hb]

/-- The first day of the calendar: where local time is ahead of UTC it cannot be compared, and
    where local time lies behind it can be subtracted from. -/
theorem temporal_outOfCalendar_first_day :
    let a : Atomic := date .firstDay none
    let b : Atomic := date .firstDay (some .utc)
    a.type.isTemporal = true ∧ b.type.isTemporal = true ∧
      compareBy .lt a b ⟨⟨50400, by decide, by decide⟩, []⟩ = .error .outOfCalendar ∧
      ∃ seconds, arithmetic .sub a b ⟨⟨-50400, by decide, by decide⟩, []⟩ =
        .ok (dayTimeDuration seconds) := by
  intro a b
  have hzone (zone : Offset) : a.LeavesCalendar ⟨zone, []⟩ ↔ 0 < zone.nanos := by
    rw [leavesCalendar_iff (t := (.startOf .firstDay, none)) rfl]
    constructor
    · rintro (⟨-, h⟩ | ⟨h, -⟩)
      · exact h
      · exact absurd h (by decide)
    · exact fun h => .inl ⟨rfl, h⟩
  have hutc (zone : Offset) : ¬ b.LeavesCalendar ⟨zone, []⟩ := by
    rw [leavesCalendar_iff (t := (.startOf .firstDay, some .utc)) rfl]
    rintro (⟨-, h⟩ | ⟨h, -⟩)
    · exact Int.lt_irrefl 0 h
    · exact absurd h (by decide)
  refine ⟨rfl, rfl, ?_, ?_⟩
  · exact ((temporal_outOfCalendar rfl rfl).1 .lt).2 ⟨rfl, .inl ((hzone _).2 (by decide))⟩
  · exact (temporal_outOfCalendar rfl rfl).2.2.2.1 rfl nofun (mt (hzone _).1 (by decide)) (hutc _)

/-- Texts of the first and the last day are cast to values that no operation can bring to UTC. -/
theorem first_and_last_day_leave :
    let a : Atomic := dateTime ⟨.lastDay, ⟨86399000000000, by decide⟩⟩
      (some ⟨-50400, by decide, by decide⟩)
    let b : Atomic := date .firstDay (some ⟨50400, by decide, by decide⟩)
    let c : Atomic := fragment (.year (-262143)) (some ⟨60, by decide, by decide⟩)
    ((str "262142-12-31T23:59:59-14:00").cast .dateTime .standard = .ok a ∧
      compareBy .eq a a .standard = .error .outOfCalendar) ∧
    ((str "-262143-01-01+14:00").cast .date .standard = .ok b ∧
      arithmetic .sub b b .standard = .error .outOfCalendar) ∧
    ((str "-262143+00:01").cast (.fragment .year) .standard = .ok c ∧
      EqualityKey.of c .standard = .error .outOfCalendar) := by
  decide +kernel

end Atomic

end XPathData
