import XPathData.Proofs.Duration.Parts
import XPathData.Proofs.Duration.Sign

/-! # Durations cast back from their text

  The text of a duration that was cast from a string is cast to its type again. This gives the
  months and the seconds back, except where there are more whole seconds than 64 bits hold: the
  text shows fewer of them then.

  * `DurationLiteral.read_write` — reading a text with its sign
  * `Atomic.readDuration_write` — reading it as the literal of a type
  * `Atomic.duration_text_read_back` — casting the text of a cast duration
-/

namespace XPathData

open Text

/-! ### The seconds shown -/

namespace Duration

variable {S : Decimal}

/-- The seconds that a text with a sign shows. -/
def signedShown (S : Decimal) : ℚ := if S.coefficient < 0 then -shown S.abs else shown S.abs

/-- All seconds are shown exactly if the whole ones have 64 bits. -/
theorem signedShown_eq_iff : signedShown S = S.value ↔ S.whole.natAbs ≤ mostSeconds := by
  rw [← S.natAbs_whole_abs, ← shown_eq_iff S.abs_coefficient_nonneg, Decimal.value_abs,
    signedShown]
  by_cases hneg : S.coefficient < 0
  · have hvalue : S.value < 0 := lt_of_not_ge fun h => not_le.2 hneg (Decimal.value_nonneg_iff.1 h)
    rw [if_pos hneg, abs_of_neg hvalue]
    exact neg_eq_iff_eq_neg
  · rw [if_neg hneg, abs_of_nonneg (Decimal.value_nonneg_iff.2 (not_lt.1 hneg))]

/-- Without seconds none are shown. -/
theorem signedShown_of_zero (h : S.value = 0) : signedShown S = 0 := by
  have hshown : shown S.abs = 0 :=
    (shown_eq_zero_iff S.abs_coefficient_nonneg).2 (by rw [Decimal.value_abs, h, abs_zero])
  rw [signedShown, hshown, neg_zero, ite_self]

/-- A text has no blanks. -/
theorem isUnicodeSpace_of_mem_write {nothing : String} {months : Int} {x : Char}
    (hnothing : ∀ y ∈ nothing.toList, isUnicodeSpace y = false)
    (hx : x ∈ (write nothing months S).toList) : isUnicodeSpace x = false := by
  unfold write at hx
  dsimp only at hx
  rw [String.toList_ofList] at hx
  rcases List.mem_append.1 hx with hsign | hbody
  · split at hsign
    · cases List.mem_singleton.1 hsign
      rfl
    · cases hsign
  · rcases List.mem_cons.1 hbody with rfl | hbody
    · rfl
    · split at hbody
      · exact hnothing x hbody
      · exact isUnicodeSpace_of_mem_writeParts _ S.abs_coefficient_nonneg hbody

/-- Where nothing is to be shown, a text shows the components that stand for it. -/
theorem write_zero (nothing : String) (h : S.value = 0) :
    (write nothing 0 S).toList = 'P' :: nothing.toList := by
  have hnil := writeParts_eq_nil S.abs_coefficient_nonneg (by rw [Decimal.value_abs, h, abs_zero])
  have hS : S.coefficient = 0 := by simpa [Decimal.value] using h
  unfold write
  dsimp only
  rw [String.toList_ofList, Int.natAbs_zero, hnil, hS]
  rfl

end Duration

/-! ### Reading with the sign -/

namespace DurationLiteral

variable {M : Int} {S : Decimal} {nothing : String}

/-- The sign and the `P` are taken off, and the sign is given to the totals. -/
theorem read_signed (negative : Bool) {parts : List Char}
    (h : ∀ x ∈ (if negative then ['-'] else []) ++ 'P' :: parts, isUnicodeSpace x = false) :
    read ((if negative then ['-'] else []) ++ 'P' :: parts) =
      readComponents parts >>= fun l => .ok (if negative then l.neg else l) := by
  unfold read
  rw [trim_eq_self h]
  cases negative <;> rfl

/-- A text of some components gives the months back, and the seconds that it shows. -/
theorem read_write (hnothing : ∀ x ∈ nothing.toList, isUnicodeSpace x = false)
    (hM : M.natAbs ≤ 0x80000000) (hsign : OneSign M S) (hne : M ≠ 0 ∨ S.value ≠ 0) :
    ∃ l, read (Duration.write nothing M S).toList = .ok l ∧ l.months = M ∧
      l.seconds.value = Duration.signedShown S ∧ (l.hasMonths = true ↔ M ≠ 0) ∧
      (l.hasSeconds = true ↔ S.value ≠ 0) := by
  have hV := S.abs_coefficient_nonneg
  have hzero : S.abs.value = 0 ↔ S.value = 0 := by rw [Decimal.value_abs, abs_eq_zero]
  obtain ⟨l, hl, hholds⟩ := readComponents_writeParts hV hM
    (hne.imp (mt Int.natAbs_eq_zero.1) (mt hzero.1))
  have hparts : (Duration.writeParts M.natAbs S.abs).isEmpty = false := by
    rw [List.isEmpty_eq_false_iff]
    intro hnil
    rw [hnil] at hl
    cases hl
  have hmonths : l.hasMonths = true ↔ M ≠ 0 := by rw [hholds.hasMonths, Ne, Int.natAbs_eq_zero]
  have hseconds : l.hasSeconds = true ↔ S.value ≠ 0 := by
    rw [hholds.hasSeconds, Ne, Duration.shown_eq_zero_iff hV, hzero]
  have hread (negative : Bool) (htext : (Duration.write nothing M S).toList =
      (if negative then ['-'] else []) ++ 'P' :: Duration.writeParts M.natAbs S.abs) :
      read (Duration.write nothing M S).toList = .ok (if negative then l.neg else l) := by
    have hblank (x : Char) (hx : x ∈ (Duration.write nothing M S).toList) :
        isUnicodeSpace x = false :=
      Duration.isUnicodeSpace_of_mem_write hnothing hx
    rw [htext] at hblank ⊢
    rw [read_signed negative hblank, hl]
    rfl
  have htext : (Duration.write nothing M S).toList =
      (if M < 0 ∨ S.coefficient < 0 then ['-'] else []) ++
        'P' :: Duration.writeParts M.natAbs S.abs := by
    unfold Duration.write
    dsimp only
    rw [String.toList_ofList, hparts, if_neg Bool.false_ne_true]
  by_cases hneg : M < 0 ∨ S.coefficient < 0
  · refine ⟨l.neg, ?_, ?_, ?_, hmonths, hseconds⟩
    · rw [if_pos hneg] at htext
      exact hread true htext
    · show -l.months = M
      rw [hholds.months]
      rcases hsign with ⟨hM, hS⟩ | ⟨hM, -⟩ <;> omega
    · show l.seconds.neg.value = _
      rw [Decimal.value_neg, hholds.seconds, Duration.signedShown]
      by_cases hS : S.coefficient < 0
      · rw [if_pos hS]
      · -- Months alone make the sign; there are no seconds then.
        have hnone : S.coefficient = 0 := by
          rcases hsign with ⟨hM, hS⟩ | ⟨-, hS⟩ <;> omega
        have hshown : Duration.shown S.abs = 0 :=
          (Duration.shown_eq_zero_iff hV).2 (hzero.2 (by simp [Decimal.value, hnone]))
        rw [if_neg hS, hshown, neg_zero]
  · refine ⟨l, ?_, ?_, ?_, hmonths, hseconds⟩
    · rw [if_neg hneg] at htext
      exact hread false htext
    · rw [hholds.months]
      omega
    · rw [hholds.seconds, Duration.signedShown, if_neg (not_or.1 hneg).2]

end DurationLiteral

/-! ### Literals of a type -/

namespace Atomic

variable {target : AtomicType} {S : Decimal} {v : Atomic} {ctx : ValueContext} {m : Signed32}

/-- The months and seconds that a literal of a type can denote. -/
structure Suits (target : AtomicType) (months : Int) (seconds : Decimal) : Prop where
  oneSign : DurationLiteral.OneSign months seconds
  noSeconds : target = .yearMonthDuration → seconds = .zero
  noMonths : target = .dayTimeDuration → months = 0

/-- The value of a type with these months and seconds. -/
def ofParts (target : AtomicType) (months : Signed32) (seconds : Decimal) : Atomic :=
  match target with
  | .yearMonthDuration => yearMonthDuration months
  | .dayTimeDuration => dayTimeDuration seconds
  | _ => duration months seconds

/-- The components that stand for nothing in a type. -/
def nothingOf (target : AtomicType) : String :=
  if target = .yearMonthDuration then "0M" else "T0S"

/-- What a literal denotes suits its type. -/
theorem gives_readDuration (target : AtomicType) (s : List Char) :
    Gives (readDuration target s) fun p => Suits target p.1 p.2 := by
  unfold readDuration
  split
  · refine Gives.bind fun m => Gives.ok ⟨?_, fun _ => rfl, by simp⟩
    exact (le_total 0 m.val).imp (⟨·, le_refl 0⟩) (⟨·, le_refl 0⟩)
  · refine Gives.bind fun S => Gives.ok ⟨?_, by simp, fun _ => rfl⟩
    exact (le_total 0 S.coefficient).imp (⟨le_refl 0, ·⟩) (⟨le_refl 0, ·⟩)
  · refine Gives.bind_of (DurationLiteral.gives_read_oneSign s) fun l hl => Gives.ok ⟨hl, ?_, ?_⟩
    all_goals
      intro h
      subst h
      contradiction

theorem isUnicodeSpace_of_mem_nothingOf (target : AtomicType) :
    ∀ x ∈ (nothingOf target).toList, isUnicodeSpace x = false := by
  unfold nothingOf
  split <;> simp [isUnicodeSpace]

/-- The text of a value with these parts. -/
theorem text_ofParts (ht : target.isDuration = true) (h : Suits target m.val S) :
    (ofParts target m S).text = Duration.write (nothingOf target) m.val S := by
  cases target with
  | yearMonthDuration =>
    rw [h.noSeconds rfl]
    rfl
  | dayTimeDuration =>
    rw [h.noMonths rfl]
    rfl
  | duration => rfl
  | _ => cases ht

/-- The components that stand for nothing are none of those that a type lacks. -/
theorem exists_read_write (h : Suits target m.val S) :
    ∃ l, DurationLiteral.read (Duration.write (nothingOf target) m.val S).toList = .ok l ∧
      l.months = m.val ∧ l.seconds.value = Duration.signedShown S ∧
      (target = .yearMonthDuration → l.hasSeconds = false) ∧
      (target = .dayTimeDuration → l.hasMonths = false) := by
  by_cases hne : m.val ≠ 0 ∨ S.value ≠ 0
  · have hm : m.val.natAbs ≤ 0x80000000 := by
      have hlow := m.low_le
      have hhigh := m.le_high
      omega
    obtain ⟨l, hl, hmonths, hseconds, hhasMonths, hhasSeconds⟩ :=
      DurationLiteral.read_write (isUnicodeSpace_of_mem_nothingOf target) hm h.oneSign hne
    refine ⟨l, hl, hmonths, hseconds, fun hyear => ?_, fun hday => ?_⟩
    · rw [← Bool.not_eq_true, hhasSeconds, h.noSeconds hyear, Decimal.value_zero]
      exact not_not.2 rfl
    · rw [← Bool.not_eq_true, hhasMonths]
      exact not_not.2 (h.noMonths hday)
  · rw [not_or, not_not, not_not] at hne
    rw [hne.1, Duration.write_zero _ hne.2, Duration.signedShown_of_zero hne.2]
    unfold nothingOf
    -- What stands for nothing is a component of the total that the type has.
    by_cases hyear : target = .yearMonthDuration
    · rw [if_pos hyear]
      exact ⟨⟨0, .zero, true, false⟩, by decide +kernel, rfl, Decimal.value_zero, fun _ => rfl,
        by simp [hyear]⟩
    · rw [if_neg hyear]
      exact ⟨⟨0, .zero, false, true⟩, by decide +kernel, rfl, Decimal.value_zero,
        fun h => absurd h hyear, fun _ => rfl⟩

/-- The text is a literal of the type; it denotes the months, and the seconds that it shows. -/
theorem readDuration_write (ht : target.isDuration = true) (h : Suits target m.val S) :
    ∃ T, readDuration target (Duration.write (nothingOf target) m.val S).toList =
      .ok (m.val, T) ∧ T.value = Duration.signedShown S := by
  obtain ⟨l, hl, hmonths, hseconds, hyear, hday⟩ := exists_read_write h
  cases target with
  | yearMonthDuration =>
    refine ⟨.zero, ?_, ?_⟩
    · have hfits : (Bounded.ofInt? m.val : Option Signed32) = some m :=
        Bounded.ofInt?_eq_some_iff.2 rfl
      simp only [readDuration, DurationLiteral.readMonths, hl, hyear rfl, hmonths, hfits, bind,
        Except.bind, pure, Except.pure, Reading.orOutOfRange, Bool.false_eq_true, if_false]
    · rw [h.noSeconds rfl, Duration.signedShown_of_zero Decimal.value_zero, Decimal.value_zero]
  | dayTimeDuration =>
    refine ⟨l.seconds, ?_, hseconds⟩
    rw [h.noMonths rfl] at hl ⊢
    simp only [readDuration, DurationLiteral.readDayTime, hl, hday rfl, bind, Except.bind, pure,
      Except.pure, Bool.false_eq_true, if_false]
  | duration =>
    refine ⟨l.seconds, ?_, hseconds⟩
    simp only [readDuration, hl, hmonths, bind, Except.bind, pure, Except.pure]
  | _ => cases ht

/-! ### Casts -/

theorem gives_orThrow {α : Type} {p : α → Prop} {e : Error} {r : Option α}
    (h : ∀ a, r = some a → p a) : Gives (orThrow e r) p := by
  cases r with
  | some a => exact Gives.ok (h a rfl)
  | none => exact Gives.error e

/-- So do the parts of a text. -/
theorem gives_durationParts (target : AtomicType) (s : String) :
    Gives (durationParts (str s) target) fun p => Suits target p.1.val p.2 := by
  have hliteral := gives_castLiteral (str s) target (gives_readDuration target)
  refine Gives.bind_of hliteral fun (months, seconds) hp => ?_
  refine Gives.bind_of (gives_orThrow (p := fun m : Signed32 => months = m.val) fun m hm => ?_)
    fun m hm => Gives.ok ?_
  · exact (Bounded.ofInt?_eq_some_iff.1 hm).symm
  · show Suits target m.val seconds
    rw [← hm]
    exact hp

/-- The parts of a text are those of the literal that it is. -/
theorem durationParts_str {s : String} (h : readDuration target (literalOf s) = .ok (m.val, S)) :
    durationParts (str s) target = .ok (m, S) := by
  have hfits : (Bounded.ofInt? m.val : Option Signed32) = some m :=
    Bounded.ofInt?_eq_some_iff.2 rfl
  simp only [durationParts, castLiteral, source?, h, ofReading, Except.mapError, bind,
    Except.bind, pure, Except.pure, hfits, orThrow]

/-- A cast of a text makes a value of the parts. -/
theorem cast_str_eq (ht : target.isDuration = true) (s : String) (ctx : ValueContext) :
    (str s).cast target ctx =
      durationParts (str s) target >>= fun p => .ok (ofParts target p.1 p.2) := by
  cases target with
  | yearMonthDuration | dayTimeDuration | duration => rfl
  | _ => cases ht

/-- The parts of a value can be had from it again. -/
theorem durationParts_ofParts (ht : target.isDuration = true) (h : Suits target m.val S) :
    durationParts (ofParts target m S) target = .ok (m, S) := by
  cases target with
  | yearMonthDuration =>
    rw [h.noSeconds rfl]
    rfl
  | dayTimeDuration =>
    have hm : m = .zero := Bounded.ext_val (h.noMonths rfl)
    rw [hm]
    rfl
  | duration => rfl
  | _ => cases ht

/-- Two values with the same months are the same exactly if their seconds are. -/
theorem same_ofParts (ht : target.isDuration = true) {T : Decimal} (hS : Suits target m.val S)
    (hT : Suits target m.val T) : (ofParts target m T).same (ofParts target m S) = T.same S := by
  cases target with
  | yearMonthDuration =>
    rw [hS.noSeconds rfl, hT.noSeconds rfl]
    exact beq_self_eq_true (yearMonthDuration m)
  | dayTimeDuration => rfl
  | duration =>
    show (m == m && T.same S) = _
    rw [beq_self_eq_true, Bool.true_and]
  | _ => cases ht

/-- The text of a value is cast to a value with the months, and the seconds that it shows. -/
theorem exists_cast_text (ht : target.isDuration = true) (h : Suits target m.val S)
    (ctx : ValueContext) :
    ∃ T, (str (ofParts target m S).text).cast target ctx = .ok (ofParts target m T) ∧
      Suits target m.val T ∧ T.value = Duration.signedShown S := by
  obtain ⟨T, hread, hvalue⟩ := readDuration_write ht h
  have hliteral : literalOf (Duration.write (nothingOf target) m.val S) =
      (Duration.write (nothingOf target) m.val S).toList := by
    refine trim_eq_self fun x hx => isXmlSpace_le ?_
    exact Duration.isUnicodeSpace_of_mem_write (isUnicodeSpace_of_mem_nothingOf target) hx
  refine ⟨T, ?_, gives_readDuration target _ _ hread, hvalue⟩
  rw [text_ofParts ht h, cast_str_eq ht, durationParts_str (hliteral ▸ hread)]
  rfl

/-- The text of a duration that was cast from a string can be cast to its type again. The value is
    the same exactly if there are no more whole seconds than the text shows. -/
theorem duration_text_read_back {s : String} (ht : target.isDuration = true)
    (h : (str s).cast target ctx = .ok v) :
    ∃ months seconds w, v.durationParts target = .ok (months, seconds) ∧
      (str v.text).cast target ctx = .ok w ∧
      (w.same v = true ↔ seconds.whole.natAbs ≤ 0xFFFFFFFFFFFFFFFF) := by
  rw [cast_str_eq ht] at h
  cases hparts : durationParts (str s) target with
  | error e =>
    rw [hparts] at h
    cases h
  | ok p =>
    obtain ⟨m, S⟩ := p
    rw [hparts] at h
    cases h
    have hS : Suits target m.val S := gives_durationParts target s _ hparts
    obtain ⟨T, hcast, hT, hvalue⟩ := exists_cast_text ht hS ctx
    refine ⟨m, S, ofParts target m T, durationParts_ofParts ht hS, hcast, ?_⟩
    rw [same_ofParts ht hS hT, Decimal.same_iff, hvalue]
    exact Duration.signedShown_eq_iff

theorem duration_text_read_back_negative :
    let v : Atomic := .duration ⟨-14, by decide, by decide⟩ ⟨-27390670, 2, by decide, by decide⟩
    AtomicType.duration.isDuration = true ∧
      (str "-P1Y2M3DT4H5M6.70S").cast .duration .standard = .ok v ∧
      ∃ months seconds w, v.durationParts .duration = .ok (months, seconds) ∧
        (str v.text).cast .duration .standard = .ok w ∧
        (w.same v = true ↔ seconds.whole.natAbs ≤ 0xFFFFFFFFFFFFFFFF) := by
  intro v
  have hcast : (str "-P1Y2M3DT4H5M6.70S").cast .duration .standard = .ok v := by decide +kernel
  exact ⟨rfl, hcast, duration_text_read_back rfl hcast⟩

/-- A second more than 64 bits hold is lost in the text, and so in what is cast from it. -/
theorem long_duration_loses_second :
    let long : Atomic := .dayTimeDuration ⟨0x10000000000000000, 0, by decide, by decide⟩
    let shorter : Atomic := .dayTimeDuration ⟨0xFFFFFFFFFFFFFFFF, 0, by decide, by decide⟩
    (str "PT18446744073709551616S").cast .dayTimeDuration .standard = .ok long ∧
      long.text = "P213503982334601DT7H15S" ∧
      (str long.text).cast .dayTimeDuration .standard = .ok shorter ∧
      shorter.same long = false := by
  decide +kernel

end Atomic

end XPathData
