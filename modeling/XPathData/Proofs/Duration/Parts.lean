import XPathData.Duration.Text
import XPathData.Proofs.Decimal.Arithmetic
import XPathData.Proofs.Duration.Components

/-! # The parts of a duration read back

  The text of a duration splits its months and seconds into components and leaves out those that
  are zero. Reading adds the components up again, each exactly, since no sum is greater than the
  seconds that were written. Only whole seconds beyond 64 bits are not what is read: the text
  shows the greatest number of 64 bits in their place.

  * `Duration.shown` — the seconds that the text shows
  * `Duration.exists_parts` — the text of the parts is a run of components
  * `DurationLiteral.Holds` — what has been read so far
  * `DurationLiteral.readComponents_writeParts` — what is read from the text of the parts
-/

namespace XPathData

open Text DurationLiteral

namespace Duration

variable {V : Decimal} {n m : Nat} {letter : Char}

/-! ### The seconds shown -/

/-- The greatest number of whole seconds that a text shows. -/
abbrev mostSeconds : Nat := 0xFFFFFFFFFFFFFFFF

/-- The whole seconds that the text of a magnitude shows. -/
def shownWhole (V : Decimal) : Nat := min V.whole.natAbs mostSeconds

/-- The seconds that the text of a magnitude shows. -/
def shown (V : Decimal) : ℚ := shownWhole V + V.fraction.value

/-- A magnitude is the sum of its whole part and its fraction, both without sign. -/
theorem parts_of_nonneg (hV : 0 ≤ V.coefficient) :
    V.value = V.whole.natAbs + V.fraction.value ∧ 0 ≤ V.fraction.value := by
  have hwhole : 0 ≤ V.whole := Int.tdiv_nonneg hV (by positivity)
  have hcast : (V.whole : ℚ) = V.whole.natAbs := by
    rw [Nat.cast_natAbs, abs_of_nonneg hwhole]
  have hfraction : 0 ≤ V.fraction.coefficient := Int.tmod_nonneg _ hV
  refine ⟨by rw [V.value_eq_whole_add, hcast], ?_⟩
  unfold Decimal.value
  positivity

theorem shown_le (hV : 0 ≤ V.coefficient) : shown V ≤ V.value := by
  have hle : (shownWhole V : ℚ) ≤ V.whole.natAbs := by exact_mod_cast Nat.min_le_left _ _
  rw [(parts_of_nonneg hV).1]
  exact add_le_add_left hle _

/-- All seconds are shown exactly if the whole ones have 64 bits. -/
theorem shown_eq_iff (hV : 0 ≤ V.coefficient) :
    shown V = V.value ↔ V.whole.natAbs ≤ mostSeconds := by
  rw [(parts_of_nonneg hV).1, shown, add_left_inj, Nat.cast_inj]
  exact min_eq_left_iff

/-- No seconds are shown only where there are none. -/
theorem shown_eq_zero_iff (hV : 0 ≤ V.coefficient) : shown V = 0 ↔ V.value = 0 := by
  obtain ⟨hvalue, hfraction⟩ := parts_of_nonneg hV
  have hwhole : shownWhole V = 0 ↔ V.whole.natAbs = 0 := by
    simp only [shownWhole, mostSeconds]
    omega
  rw [hvalue, shown, add_eq_zero_iff_of_nonneg (Nat.cast_nonneg _) hfraction,
    add_eq_zero_iff_of_nonneg (Nat.cast_nonneg _) hfraction, Nat.cast_eq_zero, Nat.cast_eq_zero,
    hwhole]

/-! ### The components of a text -/

/-- A component with its letter, unless it is zero. -/
def component (n : Nat) (letter : Char) : List (List Char × Char) :=
  if n = 0 then [] else [(writeNat n, letter)]

/-- The component of seconds, unless it is zero. -/
def secondsComponent (total : Decimal) : List (List Char × Char) :=
  if total.isZero then [] else [(total.text.toList, 'S')]

/-- The components before the `T`. -/
def dateComponents (m total : Nat) : List (List Char × Char) :=
  component (m / 12) 'Y' ++ component (m % 12) 'M' ++ component (total / 86400) 'D'

/-- The components behind the `T`. -/
def timeComponents (seconds : Nat) (total : Decimal) : List (List Char × Char) :=
  component (seconds / 3600) 'H' ++ component (seconds % 3600 / 60) 'M' ++ secondsComponent total

theorem flat_component (n : Nat) (letter : Char) :
    flat (component n letter) = writeComponent n letter := by
  unfold component writeComponent
  split <;> simp

theorem legible_component (point : Bool) (n : Nat) (letter : Char) :
    Legible point [letter] (component n letter) := by
  unfold component
  split
  · exact .nil
  · refine ⟨List.Sublist.refl _, ?_⟩
    intro c hc
    rw [List.mem_singleton] at hc
    subst hc
    exact ⟨writeNat_ne_nil n, fun x hx => .inl (List.all_eq_true.1 (writeNat_all_isDigit n) x hx)⟩

/-- The text of a number that is not negative is a numeral of seconds. -/
theorem legible_secondsComponent {total : Decimal} (h : 0 ≤ total.value) :
    Legible true ['S'] (secondsComponent total) := by
  unfold secondsComponent
  split
  · exact .nil
  · obtain ⟨whole, places, hwhole, hplaces, hne, htext⟩ := Decimal.exists_text_of_nonneg h
    refine ⟨List.Sublist.refl _, ?_⟩
    intro c hc
    rw [List.mem_singleton] at hc
    subst hc
    rw [htext]
    unfold Decimal.pointed
    refine ⟨by simp [hne], ?_⟩
    intro x hx
    rcases List.mem_append.1 hx with hx | hx
    · exact .inl (List.all_eq_true.1 hwhole x hx)
    · split at hx
      · cases hx
      · rcases List.mem_cons.1 hx with rfl | hx
        · exact .inr ⟨rfl, rfl, rfl⟩
        · exact .inl (List.all_eq_true.1 hplaces x hx)

theorem legible_dateComponents (m total : Nat) :
    Legible false ['Y', 'M', 'D'] (dateComponents m total) :=
  ((legible_component false _ 'Y').append (legible_component false _ 'M')).append
    (legible_component false _ 'D')

theorem legible_timeComponents (seconds : Nat) {total : Decimal} (h : 0 ≤ total.value) :
    Legible true ['H', 'M', 'S'] (timeComponents seconds total) :=
  ((legible_component true _ 'H').append (legible_component true _ 'M')).append
    (legible_secondsComponent h)

/-- The seconds below a minute and the fraction of a magnitude are one number. -/
theorem exists_seconds (hV : 0 ≤ V.coefficient) {seconds : Nat} (hle : seconds ≤ shownWhole V) :
    ∃ total : Decimal, total.value = seconds + V.fraction.value ∧ total.scale ≤ V.scale ∧
      writeSeconds seconds V.fraction = flat (secondsComponent total) := by
  obtain ⟨hvalue, hfraction⟩ := parts_of_nonneg hV
  have hwhole : shownWhole V ≤ V.whole.natAbs := Nat.min_le_left _ _
  have hmost : shownWhole V ≤ mostSeconds := Nat.min_le_right _ _
  let whole : Decimal := ⟨seconds, 0, by simp only [mostSeconds, coefficientLimit] at *; omega,
    Decimal.no_places_le⟩
  have hof : Decimal.ofInt? seconds = some whole := dif_pos ⟨whole.natAbs_lt, whole.scale_le⟩
  have hseconds : whole.value = seconds := by simp [Decimal.value, whole]
  -- The sum fits, since the magnitude that its parts were cut from does.
  have hbound : |whole.value + V.fraction.value| ≤ |V.value| := by
    have hcast : (seconds : ℚ) ≤ V.whole.natAbs := by exact_mod_cast hle.trans hwhole
    have hnonneg : (0 : ℚ) ≤ seconds := Nat.cast_nonneg _
    rw [hseconds, hvalue, abs_of_nonneg (by linarith), abs_of_nonneg (by linarith)]
    linarith
  obtain ⟨total, htotal, hsum, hscale⟩ :=
    Decimal.exists_add (a := whole) (b := V.fraction) (Nat.zero_le _) (le_refl V.scale) hbound
  rw [hseconds] at hsum
  refine ⟨total, hsum, hscale, ?_⟩
  have hzero : total.isZero = true ↔ seconds = 0 ∧ V.fraction.isZero = true := by
    rw [Decimal.isZero_iff, Decimal.isZero_iff, hsum,
      add_eq_zero_iff_of_nonneg (Nat.cast_nonneg _) hfraction, Nat.cast_eq_zero]
  unfold writeSeconds secondsComponent
  by_cases h : seconds = 0 ∧ V.fraction.isZero = true
  · rw [if_pos h, if_pos (hzero.2 h), flat_nil]
  · rw [if_neg h, if_neg (mt hzero.1 h), hof, Option.bind_some, htotal]
    simp

/-- The text of the parts is that of a run of components, and of a second one behind a `T`. -/
theorem exists_parts (m : Nat) (hV : 0 ≤ V.coefficient) :
    ∃ total : Decimal, total.value = (shownWhole V % 60 : Nat) + V.fraction.value ∧
      total.scale ≤ V.scale ∧
      writeParts m V = flat (dateComponents m (shownWhole V)) ++
        if (timeComponents (shownWhole V % 86400) total).isEmpty then []
        else 'T' :: flat (timeComponents (shownWhole V % 86400) total) := by
  have hle : shownWhole V % 86400 % 60 ≤ shownWhole V := by omega
  obtain ⟨total, hvalue, hscale, htext⟩ := exists_seconds hV hle
  rw [Nat.mod_mod_of_dvd _ (by decide : 60 ∣ 86400)] at hvalue
  refine ⟨total, hvalue, hscale, ?_⟩
  have htime : writeTime (shownWhole V % 86400) V.fraction =
      if (timeComponents (shownWhole V % 86400) total).isEmpty then []
      else 'T' :: flat (timeComponents (shownWhole V % 86400) total) := by
    have hflat : writeComponent (shownWhole V % 86400 / 3600) 'H' ++
        writeComponent (shownWhole V % 86400 % 3600 / 60) 'M' ++
        writeSeconds (shownWhole V % 86400 % 60) V.fraction =
        flat (timeComponents (shownWhole V % 86400) total) := by
      rw [timeComponents, flat_append, flat_append, flat_component, flat_component, htext]
    have hempty : (flat (timeComponents (shownWhole V % 86400) total)).isEmpty =
        (timeComponents (shownWhole V % 86400) total).isEmpty := by
      rw [Bool.eq_iff_iff, List.isEmpty_iff, List.isEmpty_iff, flat_eq_nil_iff]
    unfold writeTime
    dsimp only
    rw [hflat, hempty]
  unfold writeParts
  dsimp only
  rw [dateComponents, flat_append, flat_append, flat_component, flat_component, flat_component,
    ← htime]
  rfl

/-- A text of parts has no blanks. -/
theorem isUnicodeSpace_of_mem_writeParts (m : Nat) (hV : 0 ≤ V.coefficient) {x : Char}
    (hx : x ∈ writeParts m V) : isUnicodeSpace x = false := by
  obtain ⟨total, hvalue, -, htext⟩ := exists_parts m hV
  have hnonneg : 0 ≤ total.value := by
    rw [hvalue]
    exact add_nonneg (Nat.cast_nonneg _) (parts_of_nonneg hV).2
  have hdate : ∀ y ∈ ['Y', 'M', 'D'], isUnicodeSpace y = false := by
    simp [isUnicodeSpace]
  have htime : ∀ y ∈ ['H', 'M', 'S'], isUnicodeSpace y = false := by
    simp [isUnicodeSpace]
  rw [htext, List.mem_append] at hx
  rcases hx with hx | hx
  · rcases mem_flat (legible_dateComponents m _) hx with hdigit | rfl | hletter
    · exact isUnicodeSpace_of_isDigit hdigit
    · rfl
    · exact hdate x hletter
  · split at hx
    · cases hx
    · rcases List.mem_cons.1 hx with rfl | hx
      · rfl
      · rcases mem_flat (legible_timeComponents _ hnonneg) hx with hdigit | rfl | hletter
        · exact isUnicodeSpace_of_isDigit hdigit
        · rfl
        · exact htime x hletter

/-- Where nothing is to be shown, no component is written. -/
theorem writeParts_eq_nil (hV : 0 ≤ V.coefficient) (hzero : V.value = 0) :
    writeParts 0 V = [] := by
  obtain ⟨total, hvalue, -, htext⟩ := exists_parts 0 hV
  have hfraction := (parts_of_nonneg hV).2
  have hshown := (shown_eq_zero_iff hV).2 hzero
  rw [shown, add_eq_zero_iff_of_nonneg (Nat.cast_nonneg _) hfraction, Nat.cast_eq_zero] at hshown
  have htotal : total.isZero = true := by
    rw [Decimal.isZero_iff, hvalue, hshown.1, hshown.2]
    simp
  rw [htext, hshown.1]
  simp [dateComponents, timeComponents, component, secondsComponent, htotal]

end Duration

/-! ### Adding up what is read -/

namespace DurationLiteral

variable {V : Decimal} {l : DurationLiteral} {m n : Nat} {q : ℚ} {letter : Char}

/-- What has been read are `m` months and `q` seconds, with no more places than `V` has. -/
structure Holds (V : Decimal) (l : DurationLiteral) (m : Nat) (q : ℚ) : Prop where
  months : l.months = m
  seconds : l.seconds.value = q
  nonneg : 0 ≤ q
  scale : l.seconds.scale ≤ V.scale
  hasMonths : l.hasMonths = true ↔ m ≠ 0
  hasSeconds : l.hasSeconds = true ↔ q ≠ 0

theorem Holds.start (V : Decimal) : Holds V ⟨0, .zero, false, false⟩ 0 0 where
  months := rfl
  seconds := Decimal.value_zero
  nonneg := le_refl 0
  scale := Nat.zero_le _
  hasMonths := by simp
  hasSeconds := by simp

/-- A component that is zero is not there. -/
theorem foldlM_component (f : DurationLiteral → List Char × Char → Reading DurationLiteral)
    (l : DurationLiteral) (n : Nat) (letter : Char) :
    (Duration.component n letter).foldlM f l =
      if n = 0 then .ok l else f l (writeNat n, letter) := by
  unfold Duration.component
  split
  · rfl
  · simp

/-- Components that have been added are followed by the others. -/
theorem foldlM_append_ok {f : DurationLiteral → List Char × Char → Reading DurationLiteral}
    {c : List (List Char × Char)} {l' : DurationLiteral} (h : c.foldlM f l = .ok l')
    (c' : List (List Char × Char)) : (c ++ c').foldlM f l = c'.foldlM f l' := by
  rw [List.foldlM_append, h]
  rfl

theorem readWhole_writeNat (h : n < 0x8000000000000000) :
    readWhole (writeNat n) = .ok ⟨n, by omega, by omega⟩ := by
  unfold readWhole
  rw [readDigits_writeNat]
  unfold Bounded.ofInt?
  rw [dif_pos (by omega)]
  rfl

/-- A text of seconds has no point at its ends. -/
theorem readSeconds_text {total : Decimal} (h : 0 ≤ total.value) :
    readSeconds total.text.toList = .ok total.normalize := by
  obtain ⟨whole, places, hwhole, hplaces, hne, htext⟩ := Decimal.exists_text_of_nonneg h
  have hends : ¬(total.text.toList.head? = some '.' ∨ total.text.toList.getLast? = some '.') := by
    rw [htext]
    exact not_or.2 ⟨Decimal.head?_pointed hwhole hne, Decimal.getLast?_pointed hwhole hplaces⟩
  unfold readSeconds
  rw [if_neg hends, Decimal.read?_text]
  rfl

/-- Months are added to those read before. -/
theorem Holds.addMonths (h : Holds V l m q) (hn : n ≠ 0) {factor : Nat} (hfactor : factor ≠ 0)
    {x y : Signed64} (hx : x.val = n) (hy : y.val = factor)
    (hfits : m + n * factor < 0x8000000000000000) :
    ∃ l', l.addMonths x y = .ok l' ∧ Holds V l' (m + n * factor) q := by
  have hproduct : x.val * y.val = (n * factor : Nat) := by rw [hx, hy, Nat.cast_mul]
  have hmul : x.mul? y = some ⟨(n * factor : Nat), by omega, by omega⟩ := by
    unfold Bounded.mul?
    rw [hproduct, Bounded.ofInt?_eq_some_iff]
  have hadd : (Bounded.ofInt? ((n * factor : Nat) + l.months) : Option Signed64) =
      some ⟨(m + n * factor : Nat), by omega, by omega⟩ := by
    rw [Bounded.ofInt?_eq_some_iff, h.months]
    push_cast
    omega
  refine ⟨{ l with months := (m + n * factor : Nat), hasMonths := true }, ?_, ?_⟩
  · unfold DurationLiteral.addMonths
    rw [hmul]
    show (Reading.orOutOfRange (Bounded.ofInt? ((n * factor : Nat) + l.months)) >>= fun _ => _) = _
    rw [hadd]
    rfl
  · have hpos : n * factor ≠ 0 := Nat.mul_ne_zero hn hfactor
    exact ⟨rfl, h.seconds, h.nonneg, h.scale, iff_of_true rfl (by omega), h.hasSeconds⟩

/-- Units of time are added to the seconds read before, as long as `V` is not exceeded. -/
theorem Holds.addSeconds (h : Holds V l m q) {x u : Decimal} (hx : x.scale ≤ V.scale)
    (hu : u.scale = 0) (hpos : 0 < x.value * u.value) (hle : q + x.value * u.value ≤ V.value) :
    ∃ l', l.addSeconds x u = .ok l' ∧ Holds V l' m (q + x.value * u.value) := by
  have hq := h.nonneg
  -- Neither the product nor the total exceeds `V`, so that both are exact.
  have hproduct : |x.value * u.value| ≤ |V.value| := by
    rw [abs_of_pos hpos, abs_of_nonneg (by linarith)]
    linarith
  obtain ⟨product, hmul, hvalue, hscale⟩ := Decimal.exists_mul hx hu hproduct
  have htotal : |product.value + l.seconds.value| ≤ |V.value| := by
    rw [hvalue, h.seconds, abs_of_nonneg (by linarith), abs_of_nonneg (by linarith)]
    linarith
  obtain ⟨total, hadd, hsum, hplaces⟩ := Decimal.exists_add hscale h.scale htotal
  refine ⟨{ l with seconds := total, hasSeconds := true }, ?_, ?_⟩
  · unfold DurationLiteral.addSeconds
    rw [hmul]
    show (Reading.orOutOfRange (product.add? l.seconds) >>= fun _ => _) = _
    rw [hadd]
    rfl
  · refine ⟨h.months, ?_, by linarith, hplaces, h.hasMonths, iff_of_true rfl (by linarith)⟩
    show total.value = _
    rw [hsum, hvalue, h.seconds]
    ring

/-- A whole component of months, if it is there. -/
theorem Holds.fold_months (h : Holds V l m q)
    (f : DurationLiteral → List Char × Char → Reading DurationLiteral) (n : Nat) (letter : Char)
    {factor : Signed64} {k : Nat}
    (hf : f l (writeNat n, letter) = readWhole (writeNat n) >>= fun x => l.addMonths x factor)
    (hfactor : factor.val = k) (hk : k ≠ 0) (hfits : m + n * k < 0x8000000000000000) :
    ∃ l', (Duration.component n letter).foldlM f l = .ok l' ∧ Holds V l' (m + n * k) q := by
  rw [foldlM_component]
  by_cases hn : n = 0
  · subst hn
    refine ⟨l, if_pos rfl, ?_⟩
    rw [Nat.zero_mul, Nat.add_zero]
    exact h
  · have hlt : n < 0x8000000000000000 := by
      have := Nat.le_mul_of_pos_right n (Nat.pos_of_ne_zero hk)
      omega
    rw [if_neg hn, hf, readWhole_writeNat hlt]
    exact h.addMonths hn hk rfl hfactor hfits

/-- A whole component of seconds, if it is there. -/
theorem Holds.fold_seconds (h : Holds V l m q)
    (f : DurationLiteral → List Char × Char → Reading DurationLiteral) (n : Nat) (letter : Char)
    {u : Decimal} {k : Nat}
    (hf : f l (writeNat n, letter) =
      readWhole (writeNat n) >>= fun x => l.addSeconds (.ofSigned64 x) u)
    (hu : u.scale = 0) (hvalue : u.value = k) (hk : k ≠ 0) (hlt : n < 0x8000000000000000)
    (hle : q + (n * k : Nat) ≤ V.value) :
    ∃ l', (Duration.component n letter).foldlM f l = .ok l' ∧ Holds V l' m (q + (n * k : Nat)) := by
  rw [foldlM_component]
  by_cases hn : n = 0
  · subst hn
    refine ⟨l, if_pos rfl, ?_⟩
    rw [Nat.zero_mul, Nat.cast_zero, add_zero]
    exact h
  · have hproduct : (Decimal.ofSigned64 ⟨n, by omega, by omega⟩).value * u.value = (n * k : Nat) := by
      rw [Decimal.value_ofSigned64, hvalue, Nat.cast_mul]
      rfl
    have hpos : (0 : ℚ) < (n * k : Nat) := by
      exact_mod_cast Nat.pos_of_ne_zero (Nat.mul_ne_zero hn hk)
    rw [if_neg hn, hf, readWhole_writeNat hlt, ← hproduct]
    rw [← hproduct] at hpos hle
    exact h.addSeconds (Nat.zero_le _) hu hpos hle

/-- The component of seconds, if it is there. -/
theorem Holds.fold_total {total : Decimal} (h : Holds V l m q) (hnonneg : 0 ≤ total.value)
    (hscale : total.scale ≤ V.scale) (hle : q + total.value ≤ V.value) :
    ∃ l', (Duration.secondsComponent total).foldlM addTimeComponent l = .ok l' ∧
      Holds V l' m (q + total.value) := by
  unfold Duration.secondsComponent
  by_cases hzero : total.isZero = true
  · refine ⟨l, by rw [if_pos hzero]; rfl, ?_⟩
    rw [Decimal.isZero_iff.1 hzero, add_zero]
    exact h
  · have hunit : total.normalize.value * (unit 'S').value = total.value := by
      have hone : (unit 'S').value = 1 := by simp [unit, Decimal.value]
      rw [hone, mul_one, Decimal.value_normalize]
    have hpos : 0 < total.value := lt_of_le_of_ne hnonneg fun h0 =>
      hzero (Decimal.isZero_iff.2 h0.symm)
    obtain ⟨l', hl', hholds⟩ := h.addSeconds
      (total.normalize_scale_le.trans hscale) rfl (hunit ▸ hpos) (hunit ▸ hle)
    refine ⟨l', ?_, hunit ▸ hholds⟩
    rw [if_neg hzero, List.foldlM_cons]
    have hstep : addTimeComponent l (total.text.toList, 'S') = .ok l' := by
      unfold addTimeComponent
      rw [if_pos rfl, readSeconds_text hnonneg]
      exact hl'
    rw [hstep]
    rfl

/-- The text of the parts is read as the months and the seconds shown. -/
theorem readComponents_writeParts (hV : 0 ≤ V.coefficient) (hm : m ≤ 0x80000000)
    (hne : m ≠ 0 ∨ V.value ≠ 0) :
    ∃ l, readComponents (Duration.writeParts m V) = .ok l ∧ Holds V l m (Duration.shown V) := by
  obtain ⟨total, hvalue, hscale, htext⟩ := Duration.exists_parts m hV
  have hmost : Duration.shownWhole V ≤ Duration.mostSeconds := Nat.min_le_right _ _
  have hshown : (Duration.shownWhole V : ℚ) + V.fraction.value ≤ V.value := Duration.shown_le hV
  have hzero := Duration.shown_eq_zero_iff hV
  have hfraction := (Duration.parts_of_nonneg hV).2
  rw [Duration.shown] at hzero ⊢
  -- From here on it only counts that the whole seconds `T` are at most those of `V`.
  generalize Duration.shownWhole V = T at *
  have hnonneg : 0 ≤ total.value := by
    rw [hvalue]
    exact add_nonneg (Nat.cast_nonneg _) hfraction
  -- The components of time make up all whole seconds but those of the last one.
  have hsum : T / 86400 * 86400 + T % 86400 / 3600 * 3600 + T % 86400 % 3600 / 60 * 60 + T % 60 =
      T := by omega
  have hcast : ((T / 86400 * 86400 : Nat) : ℚ) + (T % 86400 / 3600 * 3600 : Nat) +
      (T % 86400 % 3600 / 60 * 60 : Nat) + (T % 60 : Nat) = T := by
    exact_mod_cast hsum
  have hdays : (0 : ℚ) ≤ (T / 86400 * 86400 : Nat) := Nat.cast_nonneg _
  have hhours : (0 : ℚ) ≤ (T % 86400 / 3600 * 3600 : Nat) := Nat.cast_nonneg _
  have hminutes : (0 : ℚ) ≤ (T % 86400 % 3600 / 60 * 60 : Nat) := Nat.cast_nonneg _
  have hlast : (0 : ℚ) ≤ (T % 60 : Nat) := Nat.cast_nonneg _
  simp only [Duration.mostSeconds] at hmost
  have hunit (letter : Char) (h : (unit letter).scale = 0) :
      (unit letter).value = (unit letter).coefficient := by
    rw [Decimal.value, h, pow_zero, div_one]
  obtain ⟨l₁, hl₁, h₁⟩ := (Holds.start V).fold_months addDateComponent (m / 12) 'Y' rfl rfl
    (by decide : 12 ≠ 0) (by omega)
  obtain ⟨l₂, hl₂, h₂⟩ := h₁.fold_months addDateComponent (m % 12) 'M' rfl rfl
    (by decide : 1 ≠ 0) (by omega)
  obtain ⟨l₃, hl₃, h₃⟩ := h₂.fold_seconds addDateComponent (T / 86400) 'D' rfl rfl
    (hunit 'D' rfl) (by decide) (by omega) (by linarith)
  obtain ⟨l₄, hl₄, h₄⟩ := h₃.fold_seconds addTimeComponent (T % 86400 / 3600) 'H' rfl rfl
    (hunit 'H' rfl) (by decide) (by omega) (by linarith)
  obtain ⟨l₅, hl₅, h₅⟩ := h₄.fold_seconds addTimeComponent (T % 86400 % 3600 / 60) 'M' rfl rfl
    (hunit 'M' rfl) (by decide) (by omega) (by linarith)
  obtain ⟨l₆, hl₆, h₆⟩ := h₅.fold_total hnonneg hscale (by rw [hvalue]; linarith)
  have hdate : (Duration.dateComponents m T).foldlM addDateComponent
      ⟨0, .zero, false, false⟩ = .ok l₃ := by
    unfold Duration.dateComponents
    rw [List.append_assoc, foldlM_append_ok hl₁, foldlM_append_ok hl₂, hl₃]
  have htime : (Duration.timeComponents (T % 86400) total).foldlM addTimeComponent l₃ =
      .ok l₆ := by
    unfold Duration.timeComponents
    rw [List.append_assoc, foldlM_append_ok hl₄, foldlM_append_ok hl₅, hl₆]
  have hmonths : 0 + m / 12 * 12 + m % 12 * 1 = m := by omega
  have hseconds : (0 : ℚ) + (T / 86400 * 86400 : Nat) + (T % 86400 / 3600 * 3600 : Nat) +
      (T % 86400 % 3600 / 60 * 60 : Nat) + total.value = T + V.fraction.value := by
    rw [hvalue]
    linarith
  rw [hmonths, hseconds] at h₆
  have hthere : Duration.dateComponents m T ≠ [] ∨
      Duration.timeComponents (T % 86400) total ≠ [] := by
    -- Without components nothing would have been added.
    by_contra hnone
    rw [not_or, not_not, not_not] at hnone
    rw [hnone.1] at hdate
    cases hdate
    rw [hnone.2] at htime
    cases htime
    rcases hne with hm | hV
    · have hnone : (0 : Int) = m := h₆.months
      exact hm (by omega)
    · exact hV (hzero.1 (h₆.seconds.symm.trans Decimal.value_zero))
  refine ⟨l₆, ?_, h₆⟩
  rw [htext, readComponents_flat (Duration.legible_dateComponents m T)
    (Duration.legible_timeComponents _ hnonneg) hthere, hdate]
  exact htime

end DurationLiteral

end XPathData
