import XPathData.Proofs.Atomic.FromText
import XPathData.Proofs.Calendar.Difference

/-! # Equality of fragments of dates

  A fragment is compared by the point of the time line at which it starts, with the fields that it
  lacks taken from the year 1972. The fields of two fragments of one kind can be read off these
  points, so that equal fragments have equal fields. But texts give any year of 32 bits, and years
  beyond the calendar have no point: fragments of such years all count as equal.

  * `Fragment.start?_inj` — only one fragment of a kind starts at a point
  * `Atomic.leavesCalendar_fragment_iff` — fragments that cannot be brought to UTC
  * `Atomic.fragments_equal` — which fragments are equal
-/

namespace XPathData

open Calendar

/-- At midnight the way to UTC leads out of the calendar on its first day alone, if local time is
    ahead. -/
theorem DateTime.leavesCalendar_midnight_iff {t : DateTime} {o : Offset} (h : t.clock = .midnight) :
    t.LeavesCalendar o ↔ t.date = .firstDay ∧ 0 < o.val := by
  have hlow := o.low_le
  have hnanos : o.nanos = o.val * 1000000000 := rfl
  have hday : (nanosPerDay : Int) = 86400000000000 := rfl
  have hmidnight : (Clock.midnight.nanos : Int) = 0 := rfl
  unfold LeavesCalendar
  rw [h]
  constructor
  · rintro (⟨hfirst, hearly⟩ | ⟨-, hlate⟩)
    · exact ⟨hfirst, by omega⟩
    · -- Local time lies behind by less than a day.
      omega
  · rintro ⟨hfirst, hahead⟩
    exact .inl ⟨hfirst, by omega⟩

/-! ### The start of a fragment -/

namespace Fragment

variable {f g : Fragment} {t : DateTime}

/-- Year, month and day that a fragment starts with. -/
def firstFields : Fragment → Int × Nat × Nat
  | year y => (y, 1, 1)
  | yearMonth y m => (y, m, 1)
  | month m => (1972, m, 1)
  | monthDay m d => (1972, m, d)
  | day d => (1972, 12, d)

theorem start?_eq (f : Fragment) :
    f.start? =
      (Date.ofFields? f.firstFields.1 f.firstFields.2.1 f.firstFields.2.2).map .startOf := by
  cases f <;> rfl

theorem of_start? (h : f.start? = some t) :
    f.firstFields = (t.date.year, t.date.month, t.date.day) ∧ t.clock = .midnight := by
  rw [start?_eq] at h
  obtain ⟨d, hd, rfl⟩ := Option.map_eq_some_iff.1 h
  obtain ⟨hyear, hmonth, hday⟩ := Date.ofFields?_eq_some hd
  refine ⟨?_, rfl⟩
  show f.firstFields = (d.year, d.month, d.day)
  rw [hyear, hmonth, hday]

/-- Fragments of one kind take the same fields from the year 1972. -/
theorem eq_of_firstFields (hkind : f.kind = g.kind) (h : f.firstFields = g.firstFields) : f = g := by
  cases f <;> cases g <;> cases hkind <;> cases h <;> rfl

theorem start?_inj (hkind : f.kind = g.kind) (hf : f.start? = some t) (hg : g.start? = some t) :
    f = g := by
  apply eq_of_firstFields hkind
  rw [(of_start? hf).1, (of_start? hg).1]

/-- The first day of the calendar is the start of its first year and of its first month. -/
theorem date_eq_firstDay_iff (h : f.start? = some t) :
    t.date = .firstDay ↔ f = .year firstYear ∨ f = .yearMonth firstYear 1 := by
  obtain ⟨hfields, -⟩ := of_start? h
  constructor
  · intro hfirst
    have hfirstFields : f.firstFields = (firstYear, 1, 1) := by
      rw [hfields, hfirst]
      rfl
    have hanchor : (1972 : Int) ≠ firstYear := by decide
    cases f with
    | year y =>
      cases hfirstFields
      exact .inl rfl
    | yearMonth y m =>
      cases hfirstFields
      exact .inr rfl
    | month | monthDay | day => exact absurd (Prod.mk.inj hfirstFields).1 hanchor
  · rintro (rfl | rfl)
    all_goals
      cases h
      rfl

end Fragment

namespace Atomic

variable {ctx : ValueContext} {f g : Fragment} {zone fZone gZone : Option Offset}

/-! ### Instants -/

theorem toUtc_inj {s t u : DateTime} (hs : toUtc s zone ctx = .ok u)
    (ht : toUtc t zone ctx = .ok u) : s = t := by
  rw [toUtc_eq_ok_iff] at hs ht
  apply DateTime.nanos_inj
  omega

/-- A fragment without a timezone cannot be brought to UTC if it starts on the first day of the
    calendar and local time is ahead. -/
theorem leavesCalendar_fragment_iff :
    (fragment f none).LeavesCalendar ctx ↔
      (f = .year firstYear ∨ f = .yearMonth firstYear 1) ∧ 0 < ctx.zone.val := by
  cases hstart : f.start? with
  | none =>
    have hlocal := localTime?_of_none hstart none
    apply iff_of_false (not_leavesCalendar hlocal)
    rintro ⟨rfl | rfl, -⟩
    all_goals exact absurd hstart (by decide)
  | some t =>
    have hlocal := localTime?_of_start hstart none
    rw [leavesCalendar_iff hlocal, ← Fragment.date_eq_firstDay_iff hstart]
    exact DateTime.leavesCalendar_midnight_iff (Fragment.of_start? hstart).2

/-- The instant of a fragment is that of its start, if it has one. -/
theorem fragmentInstant_eq_ok_iff {x : Option DateTime} :
    fragmentInstant f zone ctx = .ok x ↔
      f.start? = none ∧ x = none ∨
        ∃ t u, f.start? = some t ∧ toUtc t zone ctx = .ok u ∧ x = some u := by
  cases hstart : f.start? with
  | none =>
    rw [fragmentInstant_of_none hstart]
    constructor
    · intro h
      cases h
      exact .inl ⟨rfl, rfl⟩
    · rintro (⟨-, rfl⟩ | ⟨t, u, ht, -, -⟩)
      · rfl
      · cases ht
  | some t =>
    rw [fragmentInstant_of_start hstart]
    constructor
    · intro h
      obtain ⟨u, hu, rfl⟩ := Outcome.of_map_ok h
      exact .inr ⟨t, u, rfl, hu, rfl⟩
    · rintro (⟨ht, -⟩ | ⟨t', u, ht, hu, rfl⟩)
      · cases ht
      · cases ht
        rw [hu]
        rfl

/-! ### Equality -/

/-- Fragments are compared by their instants, of which those beyond the calendar have none. -/
theorem compareBy_eq_fragments {x y : Option DateTime} (hkind : f.kind = g.kind)
    (hx : fragmentInstant f fZone ctx = .ok x) (hy : fragmentInstant g gZone ctx = .ok y) :
    compareBy .eq (fragment f fZone) (fragment g gZone) ctx = .ok (x == y) := by
  apply compareBy_eq_ok_iff.2
  refine ⟨.equality (x == y), ?_, ?_⟩
  · rw [relate?_fragments hkind, hx, hy]
    rfl
  · cases x == y <;> rfl

/-- Fragments of one kind have one instant, or both none, exactly if their fields are the same or
    both have years beyond the calendar. -/
theorem instants_eq_iff {x y : Option DateTime} (hkind : f.kind = g.kind) (hf : f.Proper)
    (hg : g.Proper) (hx : fragmentInstant f zone ctx = .ok x)
    (hy : fragmentInstant g zone ctx = .ok y) : x = y ↔ f = g ∨ f.Beyond ∧ g.Beyond := by
  constructor
  · rintro rfl
    rcases fragmentInstant_eq_ok_iff.1 hx with ⟨hfNone, rfl⟩ | ⟨s, u, hs, hsu, rfl⟩
    · rcases fragmentInstant_eq_ok_iff.1 hy with ⟨hgNone, -⟩ | ⟨t, v, -, -, hv⟩
      · exact .inr ⟨hf.beyond hfNone, hg.beyond hgNone⟩
      · cases hv
    · rcases fragmentInstant_eq_ok_iff.1 hy with ⟨-, hnone⟩ | ⟨t, v, ht, htv, hv⟩
      · cases hnone
      · -- One instant in one timezone is one local time.
        cases hv
        cases toUtc_inj hsu htv
        exact .inl (Fragment.start?_inj hkind hs ht)
  · rintro (rfl | ⟨hfBeyond, hgBeyond⟩)
    · rw [hx] at hy
      exact Except.ok.inj hy
    · rw [fragmentInstant_of_none hfBeyond.start?_eq_none] at hx
      rw [fragmentInstant_of_none hgBeyond.start?_eq_none] at hy
      cases hx
      cases hy
      rfl

/-- Fragments of one kind without timezones, both of them cast from texts. Comparing them fails
    only where one starts on the first day of the calendar and local time is ahead. Otherwise they
    are equal exactly if all their fields are, or if both have years beyond the calendar. -/
theorem fragments_equal (hf : (fragment f none).FromText) (hg : (fragment g none).FromText)
    (hkind : f.kind = g.kind) (ctx : ValueContext) :
    (compareBy .eq (fragment f none) (fragment g none) ctx = .error .outOfCalendar ↔
      (fragment f none).LeavesCalendar ctx ∨ (fragment g none).LeavesCalendar ctx) ∧
    (¬ (fragment f none).LeavesCalendar ctx → ¬ (fragment g none).LeavesCalendar ctx →
      ∃ equal, compareBy .eq (fragment f none) (fragment g none) ctx = .ok equal ∧
        (equal = true ↔ f = g ∨ f.Beyond ∧ g.Beyond)) ∧
    ∀ h : Fragment, (fragment h none).LeavesCalendar ctx ↔
      (h = .year firstYear ∨ h = .yearMonth firstYear 1) ∧ 0 < ctx.zone.val := by
  refine ⟨?_, ?_, ?_⟩
  · have htype : (fragment f none).type = (fragment g none).type := congrArg AtomicType.fragment hkind
    rw [compareBy_outOfCalendar_iff, relate?_outOfCalendar_iff rfl rfl, and_iff_right htype]
  · intro hfStays hgStays
    obtain ⟨x, hx⟩ := exists_fragmentInstant (staysInCalendar_iff.2 hfStays)
    obtain ⟨y, hy⟩ := exists_fragmentInstant (staysInCalendar_iff.2 hgStays)
    refine ⟨x == y, compareBy_eq_fragments hkind hx hy, ?_⟩
    rw [beq_iff_eq]
    exact instants_eq_iff hkind hf.formed hg.formed hx hy
  · intro h
    exact leavesCalendar_fragment_iff

/-- The last day of March and the first of April. -/
theorem fragments_equal_days :
    let march : Fragment := .monthDay 3 31
    let april : Fragment := .monthDay 4 1
    (fragment march none).FromText ∧ (fragment april none).FromText ∧ march.kind = april.kind ∧
      ¬ (fragment march none).LeavesCalendar .standard ∧
      ¬ (fragment april none).LeavesCalendar .standard ∧
      compareBy .eq (fragment march none) (fragment april none) .standard = .ok false := by
  intro march april
  have hmarchCast : (str "--03-31").cast (.fragment .monthDay) .standard =
    .ok (fragment march none) := by decide +kernel
  have haprilCast : (str "--04-01").cast (.fragment .monthDay) .standard =
    .ok (fragment april none) := by decide +kernel
  have hmarch := FromText.of_cast hmarchCast
  have hapril := FromText.of_cast haprilCast
  obtain ⟨-, hequal, hleaves⟩ := fragments_equal hmarch hapril rfl .standard
  have hyear (f : Fragment) (hf : f.year? = none) : ¬ (fragment f none).LeavesCalendar .standard := by
    intro h
    rcases ((hleaves f).1 h).1 with rfl | rfl <;> cases hf
  have hmarchStays := hyear march rfl
  have haprilStays := hyear april rfl
  obtain ⟨equal, hcompare, hiff⟩ := hequal hmarchStays haprilStays
  have hdifferent : equal = false := by
    rw [← Bool.not_eq_true, hiff]
    rintro (hsame | ⟨⟨y, hy, -⟩, -⟩)
    · exact absurd hsame (by decide)
    · exact absurd hy (Option.some_ne_none y).symm
  rw [hdifferent] at hcompare
  exact ⟨hmarch, hapril, rfl, hmarchStays, haprilStays, hcompare⟩

/-- Texts of two years beyond the calendar give values that differ and are equal. -/
theorem different_years_equal :
    let f : Fragment := .year 300000
    let g : Fragment := .year 400000
    (str "300000").cast (.fragment .year) .standard = .ok (fragment f none) ∧
      (str "400000").cast (.fragment .year) .standard = .ok (fragment g none) ∧
      f.kind = g.kind ∧ f ≠ g ∧
      compareBy .eq (fragment f none) (fragment g none) .standard = .ok true := by
  decide +kernel

end Atomic

end XPathData
