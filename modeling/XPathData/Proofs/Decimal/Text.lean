import XPathData.Decimal.Text
import XPathData.Proofs.Decimal.Value
import XPathData.Proofs.Text.Digits

/-! # Decimal numbers read back from their text

  The text of a decimal number has the digits of its normal form, with a point before the decimal
  places if there are any. Reading takes the digits on both sides of the point for one numeral, so
  that it gives the normal form back.

  * `Decimal.read?_pointed` — reading digits with a point among them
  * `Decimal.exists_text` — the form of the text
  * `Decimal.read?_text` — the text is read as the normal form
-/

namespace XPathData.Decimal

open Text

variable {a : Decimal} {whole places : List Char}

/-- Digits, and decimal places after a point if there are any. -/
def pointed (whole places : List Char) : List Char :=
  whole ++ if places.isEmpty then [] else '.' :: places

/-! ### Pieces of a numeral -/

theorem not_mem_of_all_isDigit {s : List Char} (h : s.all isDigit = true) {c : Char}
    (hc : isDigit c = false) : c ∉ s := by
  intro hmem
  exact ne_of_isDigit (List.all_eq_true.1 h c hmem) hc rfl

theorem takePoint_pointed (h : whole.all isDigit = true) :
    takePoint (pointed whole places) = (whole, places) := by
  have hpoint : '.' ∉ whole := not_mem_of_all_isDigit h rfl
  unfold takePoint pointed
  cases places with
  | nil =>
    rw [List.isEmpty_nil, if_pos rfl, List.append_nil, splitFirst_of_not_mem hpoint]
    rfl
  | cons c places =>
    rw [List.isEmpty_cons, if_neg Bool.false_ne_true, splitFirst_append hpoint]
    rfl

theorem takeSign_pointed (h : whole.all isDigit = true) (hne : whole ≠ []) (negative : Bool) :
    takeSign ((if negative then ['-'] else []) ++ pointed whole places) =
      (negative, pointed whole places) := by
  cases negative with
  | true => rfl
  | false =>
    cases whole with
    | nil => exact absurd rfl hne
    | cons c whole =>
      have hc : isDigit c = true := by
        rw [List.all_cons, Bool.and_eq_true] at h
        exact h.1
      show takeSign (c :: _) = _
      unfold takeSign
      split
      · next heq => exact absurd (List.cons.inj heq).1 (ne_of_isDigit hc rfl)
      · next heq => exact absurd (List.cons.inj heq).1 (ne_of_isDigit hc rfl)
      · rfl

/-! ### Reading digits -/

theorem readDigits_cons (c : Char) (s : List Char) :
    readDigits (c :: s) = digitValue c * 10 ^ s.length + readDigits s := by
  have h := readDigits_append [c] s
  simpa [readDigits] using h

/-- One digit more shifts what was read before. -/
theorem shift_digit (n : Nat) (c : Char) (s : List Char) :
    (10 * n + digitValue c) * 10 ^ s.length + readDigits s =
      n * 10 ^ (c :: s).length + readDigits (c :: s) := by
  rw [readDigits_cons, List.length_cons, pow_succ]
  ring

/-- If all digits fit, so do the first ones. -/
theorem first_digit_fits {n : Nat} {c : Char} {s : List Char}
    (h : n * 10 ^ (c :: s).length + readDigits (c :: s) < coefficientLimit) :
    10 * n + digitValue c < coefficientLimit := by
  have hpos : 1 ≤ 10 ^ s.length := Nat.one_le_pow _ _ (by decide)
  have := Nat.le_mul_of_pos_right (10 * n + digitValue c) hpos
  rw [← shift_digit] at h
  omega

/-- While the digits fit, the whole part is the numeral. -/
theorem readWhole_eq {p : Scan} {s : List Char}
    (h : p.digits * 10 ^ s.length + readDigits s < coefficientLimit) :
    readWhole p s = some ⟨p.digits * 10 ^ s.length + readDigits s, p.places⟩ := by
  -- The digits so far, shifted by what is left, and the rest always make up the same number.
  induction s generalizing p with
  | nil => simp [readWhole, readDigits]
  | cons c s ih =>
    have hnext := shift_digit p.digits c s
    have hle := first_digit_fits h
    unfold readWhole
    rw [if_pos hle, ih (by rw [hnext]; exact h), hnext]

/-- While they fit, decimal places are appended to the digits so far. -/
theorem readPlaces_eq {p : Scan} {s : List Char} (hplaces : p.places + s.length ≤ 28)
    (h : p.digits * 10 ^ s.length + readDigits s < coefficientLimit) :
    readPlaces p s = some ⟨p.digits * 10 ^ s.length + readDigits s, p.places + s.length⟩ := by
  induction s generalizing p with
  | nil => simp [readPlaces, readDigits]
  | cons c s ih =>
    have hnext := shift_digit p.digits c s
    have hle := first_digit_fits h
    rw [List.length_cons] at hplaces
    have hcount : p.places + 1 + s.length = p.places + (c :: s).length := by
      rw [List.length_cons]
      omega
    unfold readPlaces
    rw [if_neg (by omega)]
    dsimp only
    rw [if_pos hle, ih (p := ⟨10 * p.digits + digitValue c, p.places + 1⟩) (by dsimp only; omega)
      (by dsimp only; rw [hnext]; exact h)]
    dsimp only
    rw [hnext, hcount]

/-- Digits with a point among them are one numeral, with the decimal places behind the point. -/
theorem read?_pointed (hwhole : whole.all isDigit = true) (hplaces : places.all isDigit = true)
    (hne : whole ≠ []) (hcount : places.length ≤ 28)
    (hlt : readDigits (whole ++ places) < coefficientLimit) (negative : Bool) :
    read? ((if negative then ['-'] else []) ++ pointed whole places) =
      ofParts? (if negative then -(readDigits (whole ++ places) : Int)
        else readDigits (whole ++ places)) places.length := by
  have hlexical : isLexical ((if negative then ['-'] else []) ++ pointed whole places) = true := by
    unfold isLexical
    rw [takeSign_pointed hwhole hne, takePoint_pointed hwhole]
    simp [hwhole, hplaces, hne]
  have happend := readDigits_append whole places
  have hle : readDigits whole < coefficientLimit := by
    have hpos : 1 ≤ 10 ^ places.length := Nat.one_le_pow _ _ (by decide)
    have := Nat.le_mul_of_pos_right (readDigits whole) hpos
    omega
  have hdigits : readWhole ⟨0, 0⟩ whole = some ⟨readDigits whole, 0⟩ := by
    rw [readWhole_eq (by simpa using hle)]
    simp
  have hscan : readPlaces ⟨readDigits whole, 0⟩ places =
      some ⟨readDigits (whole ++ places), places.length⟩ := by
    rw [readPlaces_eq (by simpa using hcount) (by simpa [← happend] using hlt), ← happend]
    simp
  unfold read?
  rw [if_pos hlexical, takeSign_pointed hwhole hne]
  dsimp only
  rw [takePoint_pointed hwhole]
  dsimp only
  rw [hdigits, Option.bind_some, hscan, Option.bind_some]

/-! ### The text of a number -/

/-- The text has the digits of the normal form on both sides of its point. -/
theorem exists_text (a : Decimal) :
    ∃ whole places : List Char, whole.all isDigit = true ∧ places.all isDigit = true ∧
      whole ≠ [] ∧ places.length = a.normalize.scale ∧
      readDigits (whole ++ places) = a.normalize.coefficient.natAbs ∧
      a.text.toList =
        (if decide (a.normalize.coefficient < 0) then ['-'] else []) ++ pointed whole places := by
  have hdigits := writePadded_all_isDigit (a.normalize.scale + 1) a.normalize.coefficient.natAbs
  have hlength := le_length_writePadded (a.normalize.scale + 1) a.normalize.coefficient.natAbs
  have hread := readDigits_writePadded (a.normalize.scale + 1) a.normalize.coefficient.natAbs
  unfold text
  dsimp only
  generalize writePadded (a.normalize.scale + 1) a.normalize.coefficient.natAbs = digits at *
  have hplaces : (digits.drop (digits.length - a.normalize.scale)).length = a.normalize.scale := by
    rw [List.length_drop]
    omega
  refine ⟨digits.take (digits.length - a.normalize.scale),
    digits.drop (digits.length - a.normalize.scale), ?_, ?_, ?_, hplaces, ?_, ?_⟩
  · rw [List.all_eq_true] at hdigits ⊢
    exact fun c hc => hdigits c (List.mem_of_mem_take hc)
  · rw [List.all_eq_true] at hdigits ⊢
    exact fun c hc => hdigits c (List.mem_of_mem_drop hc)
  · -- One digit more is written than there are places.
    intro hnil
    have := congrArg List.length hnil
    rw [List.length_take, List.length_nil] at this
    omega
  · rw [List.take_append_drop, hread]
  · rw [String.toList_ofList]
    unfold pointed
    have hempty : (digits.drop (digits.length - a.normalize.scale)).isEmpty = true ↔
        a.normalize.scale = 0 := by
      rw [List.isEmpty_iff, ← List.length_eq_zero_iff, hplaces]
    by_cases hscale : a.normalize.scale = 0
    · rw [if_pos (hempty.2 hscale), if_pos hscale]
      simp
    · rw [if_neg (mt hempty.1 hscale), if_neg hscale]
      simp

/-- The text of a number is read as its normal form. -/
theorem read?_text (a : Decimal) : read? a.text.toList = some a.normalize := by
  obtain ⟨whole, places, hwhole, hplaces, hne, hcount, hread, htext⟩ := a.exists_text
  have hsign : (if decide (a.normalize.coefficient < 0) = true then
      -(a.normalize.coefficient.natAbs : Int) else a.normalize.coefficient.natAbs) =
      a.normalize.coefficient := by
    split
    · next h =>
      have := of_decide_eq_true h
      omega
    · next h =>
      have : ¬ a.normalize.coefficient < 0 := fun hneg => h (decide_eq_true hneg)
      omega
  rw [htext, read?_pointed hwhole hplaces hne (hcount ▸ a.normalize.scale_le)
    (hread ▸ a.normalize.natAbs_lt), hread, hcount, hsign]
  unfold ofParts?
  rw [dif_pos ⟨a.normalize.natAbs_lt, a.normalize.scale_le⟩]

/-- Without a sign the text is digits, with a point among them if there are decimal places. -/
theorem exists_text_of_nonneg (h : 0 ≤ a.value) :
    ∃ whole places : List Char, whole.all isDigit = true ∧ places.all isDigit = true ∧
      whole ≠ [] ∧ a.text.toList = pointed whole places := by
  obtain ⟨whole, places, hwhole, hplaces, hne, -, -, htext⟩ := a.exists_text
  have hsign : ¬ a.normalize.coefficient < 0 := by
    rw [not_lt, ← value_nonneg_iff, value_normalize]
    exact h
  rw [decide_eq_false hsign, if_neg Bool.false_ne_true, List.nil_append] at htext
  exact ⟨whole, places, hwhole, hplaces, hne, htext⟩

theorem head?_pointed (hwhole : whole.all isDigit = true) (hne : whole ≠ []) :
    (pointed whole places).head? ≠ some '.' := by
  intro h
  unfold pointed at h
  rw [List.head?_append_of_ne_nil _ hne] at h
  exact not_mem_of_all_isDigit hwhole rfl (List.mem_of_mem_head? h)

theorem getLast?_pointed (hwhole : whole.all isDigit = true) (hplaces : places.all isDigit = true) :
    (pointed whole places).getLast? ≠ some '.' := by
  intro h
  unfold pointed at h
  cases places with
  | nil =>
    rw [List.isEmpty_nil, if_pos rfl, List.append_nil] at h
    exact not_mem_of_all_isDigit hwhole rfl (List.mem_of_getLast? h)
  | cons c places =>
    rw [List.isEmpty_cons, if_neg Bool.false_ne_true, List.getLast?_append_cons,
      List.getLast?_cons_cons] at h
    exact not_mem_of_all_isDigit hplaces rfl (List.mem_of_getLast? h)

end XPathData.Decimal
