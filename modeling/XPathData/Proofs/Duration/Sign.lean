import XPathData.Proofs.Atomic.Cast

/-! # The sign of a duration literal

  The sign of a literal stands before all of its components, and the components themselves have
  none. So the months and the seconds of a literal are never of different signs.

  * `Gives.foldlM` — what every step of a fold keeps
  * `DurationLiteral.gives_read_oneSign` — the two totals of a literal have one sign
-/

namespace XPathData

open Text

/-- What every step keeps holds at the end. -/
theorem Gives.foldlM {ε α β : Type} {p : β → Prop} {f : β → α → Except ε β} {l : List α} {b : β}
    (hb : p b) (h : ∀ b, p b → ∀ a ∈ l, Gives (f b a) p) : Gives (l.foldlM f b) p := by
  induction l generalizing b with
  | nil => exact Gives.ok hb
  | cons a l ih =>
    rw [List.foldlM_cons]
    refine Gives.bind_of (h b hb a List.mem_cons_self) fun b' hb' => ?_
    exact ih hb' fun c hc x hx => h c hc x (List.mem_cons_of_mem a hx)

theorem Reading.gives_orOutOfRange {α : Type} {p : α → Prop} {r : Option α} (h : ∀ a, r = some a → p a) :
    Gives (orOutOfRange r) p := by
  cases r with
  | some a => exact Gives.ok (h a rfl)
  | none => exact Gives.error _

theorem Reading.gives_orMalformed {α : Type} {p : α → Prop} {r : Option α} (h : ∀ a, r = some a → p a) :
    Gives (orMalformed r) p := by
  cases r with
  | some a => exact Gives.ok (h a rfl)
  | none => exact Gives.error _

/-! ### Decimal numbers without a minus -/

namespace Decimal

theorem coefficient_of_ofParts? {n : Int} {s : Nat} {r : Decimal} (h : ofParts? n s = some r) :
    r.coefficient = n := by
  unfold ofParts? at h
  split at h
  · cases h
    rfl
  · cases h

theorem halfEvenInt_nonneg {n : Int} (hn : 0 ≤ n) (d : Nat) : 0 ≤ Rounding.halfEvenInt n d := by
  unfold Rounding.halfEvenInt
  rw [if_neg (by omega)]
  omega

/-- Rounding keeps the sign. -/
theorem fit_nonneg {n : Int} {d s : Nat} {r : Decimal} (hn : 0 ≤ n) (h : fit n d s = some r) :
    0 ≤ r.coefficient := by
  induction s with
  | zero =>
    rw [coefficient_of_ofParts? h]
    exact halfEvenInt_nonneg hn d
  | succ s ih =>
    rw [fit, Option.or_eq_some_iff] at h
    -- The digits fit at this scale, or else at a smaller one.
    rcases h with h | ⟨-, h⟩
    · rw [coefficient_of_ofParts? h]
      exact halfEvenInt_nonneg (Int.mul_nonneg hn (Int.natCast_nonneg _)) d
    · exact ih h

theorem add?_nonneg {a b r : Decimal} (ha : 0 ≤ a.coefficient) (hb : 0 ≤ b.coefficient)
    (h : a.add? b = some r) : 0 ≤ r.coefficient := by
  refine fit_nonneg (Int.add_nonneg ?_ ?_) h
  · exact Int.mul_nonneg ha (Int.natCast_nonneg _)
  · exact Int.mul_nonneg hb (Int.natCast_nonneg _)

theorem mul?_nonneg {a b r : Decimal} (ha : 0 ≤ a.coefficient) (hb : 0 ≤ b.coefficient)
    (h : a.mul? b = some r) : 0 ≤ r.coefficient :=
  fit_nonneg (Int.mul_nonneg ha hb) h

/-- A numeral without a minus is not negative. -/
theorem read?_nonneg {s : List Char} {r : Decimal} (hs : '-' ∉ s) (h : read? s = some r) :
    0 ≤ r.coefficient := by
  have hsign : (takeSign s).1 = false := by
    unfold takeSign
    split
    · exact absurd List.mem_cons_self hs
    · rfl
    · rfl
  unfold read? at h
  split at h
  · dsimp only at h
    obtain ⟨p, -, hp⟩ := Option.bind_eq_some_iff.1 h
    rw [coefficient_of_ofParts? hp, hsign, if_neg Bool.false_ne_true]
    omega
  · cases h

end Decimal

/-! ### Literals -/

namespace DurationLiteral

/-- Neither total is negative. -/
def Unsigned (l : DurationLiteral) : Prop := 0 ≤ l.months ∧ 0 ≤ l.seconds.coefficient

/-- The two totals are not of different signs. -/
def OneSign (months : Int) (seconds : Decimal) : Prop :=
  0 ≤ months ∧ 0 ≤ seconds.coefficient ∨ months ≤ 0 ∧ seconds.coefficient ≤ 0

/-- No numeral has a minus. -/
theorem gives_components (point : Bool) (letters numeral s : List Char) (h : '-' ∉ numeral) :
    Gives (components point letters numeral s) fun l => ∀ c ∈ l, '-' ∉ c.1 := by
  induction s generalizing letters numeral with
  | nil =>
    unfold components
    split
    · exact Gives.ok (by simp)
    · exact Gives.error _
  | cons x s ih =>
    unfold components
    split
    case isTrue hx =>
      -- What is added to a numeral is a digit or a point.
      refine ih letters (numeral ++ [x]) ?_
      rw [List.mem_append, List.mem_singleton, not_or]
      refine ⟨h, ?_⟩
      rintro rfl
      cases hx
    case isFalse =>
      split
      · exact Gives.error _
      · split
        · exact Gives.error _
        · refine Gives.map_of (ih _ [] (by simp)) fun l hl => ?_
          intro c hc
          rcases List.mem_cons.1 hc with rfl | hc
          · exact h
          · exact hl c hc

theorem gives_readWhole (numeral : List Char) : Gives (readWhole numeral) fun n => 0 ≤ n.val := by
  refine Reading.gives_orMalformed fun n hn => ?_
  rw [Bounded.ofInt?_eq_some_iff.1 hn]
  omega

theorem gives_addMonths {l : DurationLiteral} (hl : l.Unsigned) {n factor : Signed64}
    (hn : 0 ≤ n.val) (hfactor : 0 ≤ factor.val) : Gives (l.addMonths n factor) Unsigned := by
  refine Gives.bind_of (Reading.gives_orOutOfRange (p := fun x => 0 ≤ x.val) fun x hx => ?_) fun x hx => ?_
  · rw [Bounded.ofInt?_eq_some_iff.1 hx]
    exact Int.mul_nonneg hn hfactor
  · refine Gives.bind_of (Reading.gives_orOutOfRange (p := fun y => 0 ≤ y.val) fun y hy => ?_) fun y hy => ?_
    · rw [Bounded.ofInt?_eq_some_iff.1 hy]
      exact Int.add_nonneg hx hl.1
    · exact Gives.ok ⟨hy, hl.2⟩

theorem gives_addSeconds {l : DurationLiteral} (hl : l.Unsigned) {n u : Decimal}
    (hn : 0 ≤ n.coefficient) (hu : 0 ≤ u.coefficient) : Gives (l.addSeconds n u) Unsigned := by
  refine Gives.bind_of (Reading.gives_orOutOfRange fun x hx => Decimal.mul?_nonneg hn hu hx) fun x hx => ?_
  exact Gives.bind_of (Reading.gives_orOutOfRange fun y hy => Decimal.add?_nonneg hx hl.2 hy) fun y hy =>
    Gives.ok ⟨hl.1, hy⟩

theorem unit_nonneg (letter : Char) : 0 ≤ (unit letter).coefficient := by
  unfold unit
  split <;> exact by decide

theorem gives_addDateComponent {l : DurationLiteral} (hl : l.Unsigned) (c : List Char × Char) :
    Gives (l.addDateComponent c) Unsigned := by
  refine Gives.bind_of (gives_readWhole c.1) fun n hn => ?_
  split
  · exact gives_addMonths hl hn (by decide)
  · exact gives_addMonths hl hn (by decide)
  · exact gives_addSeconds hl hn (unit_nonneg _)

theorem gives_addTimeComponent {l : DurationLiteral} (hl : l.Unsigned) {c : List Char × Char}
    (hc : '-' ∉ c.1) : Gives (l.addTimeComponent c) Unsigned := by
  have hseconds : Gives (readSeconds c.1) fun n => 0 ≤ n.coefficient := by
    unfold readSeconds
    split
    · exact Gives.error _
    · exact Reading.gives_orMalformed fun n hn => Decimal.read?_nonneg hc hn
  unfold addTimeComponent
  split
  · exact Gives.bind_of hseconds fun n hn => gives_addSeconds hl hn (unit_nonneg _)
  · exact Gives.bind_of (gives_readWhole c.1) fun n hn => gives_addSeconds hl hn (unit_nonneg _)

/-- The totals of the components alone have no sign. -/
theorem gives_readComponents (s : List Char) : Gives (readComponents s) Unsigned := by
  have hstart : Unsigned ⟨0, .zero, false, false⟩ := ⟨Int.le_refl 0, Int.le_refl 0⟩
  -- Both runs of components are cut and added up alike.
  have hruns (dateText timeText : List Char) :
      Gives (do
        let dateComponents ← components false ['Y', 'M', 'D'] [] dateText
        let l ← dateComponents.foldlM addDateComponent ⟨0, .zero, false, false⟩
        let timeComponents ← components true ['H', 'M', 'S'] [] timeText
        let l ← timeComponents.foldlM addTimeComponent l
        if dateComponents.isEmpty && timeComponents.isEmpty then throw .malformed
        return l) Unsigned := by
    refine Gives.bind fun date => ?_
    refine Gives.bind_of (Gives.foldlM hstart fun l hl c _ => gives_addDateComponent hl c)
      fun l hl => ?_
    refine Gives.bind_of (gives_components true ['H', 'M', 'S'] [] timeText (by simp))
      fun time htime => ?_
    refine Gives.bind_of (Gives.foldlM hl fun l hl c hc => gives_addTimeComponent hl (htime c hc))
      fun l hl => ?_
    split
    · exact Gives.error _
    · exact Gives.ok hl
  unfold readComponents
  cases splitFirst 'T' s with
  | none => exact hruns s []
  | some r =>
    obtain ⟨dateText, timeText⟩ := r
    dsimp only
    split
    · exact Gives.error _
    · exact hruns dateText timeText

/-- The totals of a literal have one sign. -/
theorem gives_read_oneSign (s : List Char) :
    Gives (read s) fun l => OneSign l.months l.seconds := by
  have hsigned (negative : Bool) (rest : List Char) :
      Gives (do
        let l ← readComponents (← Reading.orMalformed (dropLead? ['P'] rest))
        return if negative then l.neg else l) fun l => OneSign l.months l.seconds := by
    refine Gives.bind fun body => Gives.bind_of (gives_readComponents body) fun l hl => ?_
    cases negative with
    | true =>
      refine Gives.ok (.inr ⟨?_, ?_⟩)
      · exact Int.neg_nonpos_of_nonneg hl.1
      · exact Int.neg_nonpos_of_nonneg hl.2
    | false => exact Gives.ok (.inl hl)
  unfold read
  split
  exact hsigned _ _

end DurationLiteral

end XPathData
