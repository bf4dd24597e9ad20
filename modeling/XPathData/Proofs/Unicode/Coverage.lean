import XPathData.Unicode.Intervals

/-! # Comparing tables of intervals

  Two tables are compared by the ends of their intervals, so that no character has to be looked at.

  * `Intervals.has_of_covers` — every character of one table is in another one
  * `Intervals.not_has_of_isApart` — no character is in both of two tables
-/

namespace XPathData.Unicode.Intervals

variable {s t : Intervals} {c : Char}

theorem has_eq_true_iff : has s c = true ↔ ∃ i ∈ s, i.1 ≤ c.toNat ∧ c.toNat ≤ i.2 := by
  simp [has]

/-! ### Covering -/

/-- The code point behind all that a table has from a place on. Each interval is tried once, in
    the order of the table. -/
def reach (t : Intervals) (start : Nat) : Nat :=
  t.foldl (fun n i => if i.1 ≤ n ∧ n ≤ i.2 then i.2 + 1 else n) start

theorem has_of_lt_reach {start : Nat} (hstart : start ≤ c.toNat) (hreach : c.toNat < t.reach start) :
    t.has c = true := by
  induction t generalizing start with
  | nil =>
    have hlt : c.toNat < start := hreach
    omega
  | cons i t ih =>
    rw [has_cons, Bool.or_eq_true, Bool.and_eq_true, decide_eq_true_eq, decide_eq_true_eq]
    have hrest : c.toNat < reach t (if i.1 ≤ start ∧ start ≤ i.2 then i.2 + 1 else start) := hreach
    -- The first interval has the character, or the walk goes on from behind it, or from where it was.
    by_cases hi : i.1 ≤ start ∧ start ≤ i.2
    · rw [if_pos hi] at hrest
      by_cases hc : c.toNat ≤ i.2
      · exact .inl ⟨Nat.le_trans hi.1 hstart, hc⟩
      · exact .inr (ih (Nat.lt_of_not_le hc) hrest)
    · rw [if_neg hi] at hrest
      exact .inr (ih hstart hrest)

/-- Each interval of `s` is reached through in `t`. -/
def covers (t s : Intervals) : Bool := s.all fun i => i.2 < t.reach i.1

theorem has_of_covers (h : t.covers s = true) (hc : s.has c = true) : t.has c = true := by
  obtain ⟨i, hi, hfirst, hlast⟩ := has_eq_true_iff.1 hc
  have hreach : i.2 < t.reach i.1 := of_decide_eq_true (List.all_eq_true.1 h i hi)
  exact has_of_lt_reach hfirst (Nat.lt_of_le_of_lt hlast hreach)

/-! ### Lying apart -/

/-- No interval of `s` overlaps one of `t`. -/
def isApart (s t : Intervals) : Bool := s.all fun i => t.all fun j => i.2 < j.1 || j.2 < i.1

theorem not_has_of_isApart (h : s.isApart t = true) (hs : s.has c = true) : ¬ t.has c = true := by
  intro ht
  obtain ⟨i, hi, hi₁, hi₂⟩ := has_eq_true_iff.1 hs
  obtain ⟨j, hj, hj₁, hj₂⟩ := has_eq_true_iff.1 ht
  have hapart := List.all_eq_true.1 (List.all_eq_true.1 h i hi) j hj
  simp only [Bool.or_eq_true, decide_eq_true_eq] at hapart
  omega

end XPathData.Unicode.Intervals
