import XPathData.Proofs.Atomic.Cast
import XPathData.Proofs.Calendar.DayNumber
import XPathData.Proofs.Text.Hex

/-! # Values that come from texts

  A value that casts make from a text is better behaved than its type says: the fields of a
  fragment are those of some day, as long as its year is left out of account, and the text of a
  binary value is made of bytes.

  * `Atomic.FromText` — the values that casts make from texts
  * `Atomic.FromText.formed` — what holds of them
  * `Fragment.Proper.beyond` — only the year of such a fragment can lie beyond the calendar
-/

namespace XPathData

open Calendar

/-! ### Fragments -/

namespace Fragment

/-- The fields beside the year are those of some day, a day of every year one of a leap year. -/
def Proper : Fragment → Prop
  | year _ => True
  | yearMonth _ m | month m => 1 ≤ m ∧ m ≤ 12
  | monthDay m d => (1 ≤ m ∧ m ≤ 12) ∧ 1 ≤ d ∧ d ≤ daysInMonth 2000 m
  | day d => 1 ≤ d ∧ d ≤ 31

/-- The year of a fragment, if it has one. -/
def year? : Fragment → Option Int
  | year y | yearMonth y _ => some y
  | _ => none

/-- The fragment has a year that the calendar does not have. -/
def Beyond (f : Fragment) : Prop := ∃ y, f.year? = some y ∧ ¬(firstYear ≤ y ∧ y ≤ lastYear)

theorem proper_ofDate (d : Date) (k : FragmentKind) : (ofDate d k).Proper := by
  have hmonth := d.month_bounds
  have hday := d.day_bounds
  -- No month is longer than it is in a leap year.
  have hlong : daysInMonth d.year d.month ≤ daysInMonth 2000 d.month := by
    unfold daysInMonth
    split
    · have hleap : isLeap 2000 = true := by decide
      rw [hleap]
      split <;> decide
    all_goals exact Nat.le_refl _
  have hlast := daysInMonth_le d.year d.month
  cases k with
  | year => trivial
  | yearMonth => exact hmonth
  | month => exact hmonth
  | monthDay => exact ⟨hmonth, hday.1, Nat.le_trans hday.2 hlong⟩
  | day => exact ⟨hday.1, Nat.le_trans hday.2 hlast⟩

theorem gives_readMonth (s : List Char) : Gives (readMonth s) fun m => 1 ≤ m ∧ m ≤ 12 := by
  refine Gives.bind fun m => ?_
  split
  · next h => exact Gives.ok h
  · exact Gives.error _

theorem gives_readDay (s : List Char) : Gives (readDay s) fun d => 1 ≤ d ∧ d ≤ 31 := by
  refine Gives.bind fun d => ?_
  split
  · next h => exact Gives.ok h
  · exact Gives.error _

theorem gives_readFields_proper (s : List Char) (k : FragmentKind) :
    Gives (readFields s k) Proper := by
  cases k with
  | year => exact Gives.map fun y => trivial
  | yearMonth =>
    exact Gives.bind fun _ => Gives.bind fun _ => Gives.bind_of (gives_readMonth _)
      fun _ hm => Gives.ok hm
  | month => exact Gives.bind fun _ => Gives.bind_of (gives_readMonth _) fun _ hm => Gives.ok hm
  | day => exact Gives.bind fun _ => Gives.bind_of (gives_readDay _) fun _ hd => Gives.ok hd
  | monthDay =>
    refine Gives.bind fun _ => Gives.bind fun _ => Gives.bind_of (gives_readMonth _) fun m hm =>
      Gives.bind_of (gives_readDay _) fun d hd => ?_
    split
    · exact Gives.error _
    · next hlong => exact Gives.ok ⟨hm, hd.1, Nat.le_of_not_lt hlong⟩

theorem gives_read_proper (s : List Char) (k : FragmentKind) :
    Gives (read k s) fun r => r.1.Proper :=
  Gives.bind fun (body, _) => Gives.bind_of (gives_readFields_proper body k) fun _ hf => Gives.ok hf

/-- Dates with proper fields fail only for their year. -/
theorem year_beyond {y : Int} {m d : Nat} (hm : 1 ≤ m ∧ m ≤ 12)
    (hd : 1 ≤ d ∧ d ≤ daysInMonth y m) (h : (Date.ofFields? y m d).map DateTime.startOf = none) :
    ¬(firstYear ≤ y ∧ y ≤ lastYear) := by
  intro hy
  unfold Date.ofFields? at h
  rw [dif_pos ⟨hy, hm, hd⟩] at h
  cases h

/-- A proper fragment has a start, unless its year lies beyond the calendar. -/
theorem Proper.beyond {f : Fragment} (h : f.Proper) (hstart : f.start? = none) : f.Beyond := by
  have hcalendar : firstYear ≤ 1972 ∧ (1972 : Int) ≤ lastYear := by decide
  have hfirst (y : Int) (m : Nat) : 1 ≤ 1 ∧ 1 ≤ daysInMonth y m :=
    ⟨Nat.le_refl 1, daysInMonth_pos y m⟩
  cases f with
  | year y => exact ⟨y, rfl, year_beyond (by decide) (hfirst y 1) hstart⟩
  | yearMonth y m => exact ⟨y, rfl, year_beyond h (hfirst y m) hstart⟩
  | month m => exact absurd hcalendar (year_beyond h (hfirst 1972 m) hstart)
  | monthDay m d => exact absurd hcalendar (year_beyond h.1 h.2 hstart)
  | day d =>
    have hday : 1 ≤ d ∧ d ≤ daysInMonth 1972 12 := h
    exact absurd hcalendar (year_beyond (by decide) hday hstart)

/-- Without a year of the calendar a fragment has no start. -/
theorem Beyond.start?_eq_none {f : Fragment} (h : f.Beyond) : f.start? = none := by
  obtain ⟨y, hy, hcalendar⟩ := h
  have hfields (m d : Nat) : (Date.ofFields? y m d).map DateTime.startOf = none := by
    unfold Date.ofFields?
    rw [dif_neg fun hall => hcalendar hall.1]
    rfl
  cases f <;> cases hy
  · exact hfields 1 1
  · exact hfields _ 1

end Fragment

/-! ### Values -/

namespace Atomic

/-- The fields of a fragment are proper, and hexadecimal digits make up bytes. -/
def Formed : Atomic → Prop
  | fragment f _ => f.Proper
  | hexBinary s => ∃ bytes, Text.Hex.decode? s.toList = some bytes
  | _ => True

/-- The values that are made from texts by casts, one after the other. -/
inductive FromText : Atomic → Prop where
  /-- A text. -/
  | text (s : String) : FromText (str s)
  /-- What a cast gives. -/
  | cast {a b : Atomic} {target : AtomicType} {ctx : ValueContext} (ha : FromText a)
      (h : a.cast target ctx = .ok b) : FromText b

/-- What one cast makes from a text. -/
theorem FromText.of_cast {s : String} {b : Atomic} {target : AtomicType} {ctx : ValueContext}
    (h : (str s).cast target ctx = .ok b) : FromText b :=
  .cast (.text s) h

theorem formed_of_type {a : Atomic} (hfragment : ∀ k, a.type ≠ .fragment k)
    (hhex : a.type ≠ .hexBinary) : a.Formed := by
  cases a with
  | fragment f zone => exact absurd rfl (hfragment f.kind)
  | hexBinary s => exact absurd rfl hhex
  | _ => trivial

theorem gives_castFragment_formed (a : Atomic) (k : FragmentKind) :
    Gives (castFragment a k) Formed := by
  unfold castFragment
  split
  · exact Gives.ok (Fragment.proper_ofDate _ k)
  · exact Gives.ok (Fragment.proper_ofDate _ k)
  · exact Gives.map_of (gives_castLiteral a _ fun s => Fragment.gives_read_proper s k)
      fun r hr => hr

theorem gives_convert_formed (a : Atomic) (target : AtomicType) (ctx : ValueContext) :
    Gives (a.convert target ctx) Formed := by
  by_cases hfragment : ∃ k, target = .fragment k
  · obtain ⟨k, rfl⟩ := hfragment
    exact gives_castFragment_formed a k
  · by_cases hhex : target = .hexBinary
    · subst hhex
      refine Gives.map fun bytes => ⟨bytes, ?_⟩
      rw [String.toList_ofList, Text.Hex.decode?_encode]
    · -- Nothing is said of the values of other types.
      intro b hb
      have htype := gives_convert a target ctx b hb
      exact formed_of_type (fun k hk => hfragment ⟨k, htype ▸ hk⟩) (htype ▸ hhex)

/-- Casts make no other values from texts. -/
theorem FromText.formed {a : Atomic} (h : FromText a) : a.Formed := by
  induction h with
  | text s => trivial
  | cast _ hcast ih =>
    unfold Atomic.cast at hcast
    split at hcast
    · cases hcast
    · split at hcast
      · cases hcast
        exact ih
      · exact gives_convert_formed _ _ _ _ hcast

end Atomic

end XPathData
