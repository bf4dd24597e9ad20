import XPathData.Proofs.Calendar.Grammar
import XPathData.Proofs.Duration.Components

/-! # The parts of a duration

  A duration is written as years, months and days, and behind a `T` as hours, minutes and seconds.
  Each of them may be left out, but not all. Reading cuts a text behind each letter, without regard
  to what the letters are; what it cuts in this way are the parts of a literal, or it fails.

  * `DurationLiteral.Form` — the parts of a literal, and its text
  * `DurationLiteral.legible_of_components` — a text that can be cut is a run of components
  * `DurationLiteral.Legible.exists_part`, `DurationLiteral.legible_part` — components are parts
-/

namespace XPathData.DurationLiteral

open Text Reading

/-! ### Numerals -/

/-- At least one digit. -/
structure Numeral where
  /-- The digits. -/
  digits : List Char
  ne_nil : digits ≠ []
  all_isDigit : digits.all isDigit = true

/-- The number that a numeral denotes. -/
def Numeral.value (n : Numeral) : Nat := readDigits n.digits

/-- A numeral of seconds: digits, and decimal places behind a point if there are any. -/
structure SecondsNumeral where
  /-- The digits before the point. -/
  whole : Numeral
  /-- The digits behind the point. -/
  places : List Char
  all_isDigit : places.all isDigit = true

/-- The text of a numeral of seconds. -/
def SecondsNumeral.text (n : SecondsNumeral) : List Char := Decimal.pointed n.whole.digits n.places

variable {n : Numeral} {S : Decimal}

theorem Numeral.isDigit_of_mem (n : Numeral) : ∀ c ∈ n.digits, isDigit c = true :=
  List.all_eq_true.1 n.all_isDigit

theorem readWhole_eq_ok_iff {w : Signed64} : readWhole n.digits = .ok w ↔ w.val = n.value := by
  rw [readWhole, orMalformed_eq_ok_iff, Bounded.ofInt?_eq_some_iff]
  rfl

/-- Digits on both sides of a point, if there is one: only this is read as seconds. -/
theorem exists_secondsNumeral {numeral : List Char} (hne : numeral ≠ [])
    (hchars : ∀ c ∈ numeral, isDigit c = true ∨ c = '.') (h : readSeconds numeral = .ok S) :
    ∃ n : SecondsNumeral, numeral = n.text := by
  unfold readSeconds at h
  split at h
  · cases h
  · next hends =>
    obtain ⟨hfirst, hlast⟩ := not_or.1 hends
    have hread := orMalformed_eq_ok_iff.1 h
    -- There is no sign to be taken off.
    have hsign : Decimal.takeSign numeral = (false, numeral) := by
      unfold Decimal.takeSign
      split
      · rcases hchars _ List.mem_cons_self with hdigit | hpoint
        · cases hdigit
        · cases hpoint
      · rcases hchars _ List.mem_cons_self with hdigit | hpoint
        · cases hdigit
        · cases hpoint
      · rfl
    have hlexical : Decimal.isLexical numeral = true := by
      by_contra hno
      rw [Decimal.read?, if_neg hno] at hread
      cases hread
    simp only [Decimal.isLexical, hsign, Decimal.takePoint, Bool.and_eq_true] at hlexical
    obtain ⟨⟨-, hwhole⟩, hplaces⟩ := hlexical
    cases hsplit : splitFirst '.' numeral with
    | none =>
      rw [hsplit] at hwhole
      exact ⟨⟨⟨numeral, hne, hwhole⟩, [], rfl⟩, (List.append_nil numeral).symm⟩
    | some cut =>
      obtain ⟨whole, places⟩ := cut
      rw [hsplit] at hwhole hplaces
      have hnumeral := splitFirst_eq_some hsplit
      have hwholeNe : whole ≠ [] := by
        rintro rfl
        exact hfirst (by rw [hnumeral]; rfl)
      have hplacesNe : places.isEmpty = false := by
        rw [List.isEmpty_eq_false_iff]
        rintro rfl
        exact hlast (by rw [hnumeral]; simp)
      refine ⟨⟨⟨whole, hwholeNe, hwhole⟩, places, hplaces⟩, ?_⟩
      rw [SecondsNumeral.text, Decimal.pointed, hplacesNe, if_neg Bool.false_ne_true]
      exact hnumeral

namespace SecondsNumeral

variable (n : SecondsNumeral)

theorem text_ne_nil : n.text ≠ [] := by
  intro h
  exact n.whole.ne_nil (List.append_eq_nil_iff.1 h).1

theorem isDigit_or_point : ∀ c ∈ n.text, isDigit c = true ∨ c = '.' := by
  intro c hc
  rcases List.mem_append.1 hc with hc | hc
  · exact .inl (n.whole.isDigit_of_mem c hc)
  · split at hc
    · cases hc
    · rcases List.mem_cons.1 hc with rfl | hc
      · exact .inr rfl
      · exact .inl (List.all_eq_true.1 n.all_isDigit c hc)

/-- At the ends of a numeral there are digits, so that it is read as a decimal number. -/
theorem readSeconds_eq : readSeconds n.text = orMalformed (Decimal.read? n.text) := by
  have hfirst : n.text.head? ≠ some '.' :=
    Decimal.head?_pointed n.whole.all_isDigit n.whole.ne_nil
  have hlast : n.text.getLast? ≠ some '.' :=
    Decimal.getLast?_pointed n.whole.all_isDigit n.all_isDigit
  exact if_neg (not_or.2 ⟨hfirst, hlast⟩)

/-- The digits of a numeral. -/
def digits : List Char := n.whole.digits ++ n.places

/-- A numeral whose digits fit is read as the number that it denotes. -/
theorem read?_exact (hplaces : n.places.length ≤ 28)
    (hdigits : readDigits n.digits < coefficientLimit) :
    ∃ S, Decimal.read? n.text = some S ∧ S.scale = n.places.length ∧
      S.coefficient = readDigits n.digits := by
  have hread := Decimal.read?_pointed n.whole.all_isDigit n.all_isDigit n.whole.ne_nil hplaces
    hdigits false
  refine ⟨⟨readDigits n.digits, n.places.length, hdigits, hplaces⟩, ?_, rfl, rfl⟩
  exact hread.trans (dif_pos ⟨hdigits, hplaces⟩)

end SecondsNumeral

/-! ### The parts of a literal -/

/-- A component of a literal, if it is there: its numeral with a letter. -/
def part (numeral? : Option (List Char)) (letter : Char) : List (List Char × Char) :=
  (numeral?.map fun numeral => (numeral, letter)).toList

/-- The parts of a literal, of which there is at least one. -/
structure Form where
  /-- There is a minus in front. -/
  negative : Bool
  years : Option Numeral
  months : Option Numeral
  days : Option Numeral
  hours : Option Numeral
  minutes : Option Numeral
  seconds : Option SecondsNumeral
  any_part : (years.isSome || months.isSome || days.isSome || hours.isSome || minutes.isSome ||
    seconds.isSome) = true

namespace Form

/-- The components before the `T`. -/
def date (f : Form) : List (List Char × Char) :=
  part (f.years.map Numeral.digits) 'Y' ++ part (f.months.map Numeral.digits) 'M' ++
    part (f.days.map Numeral.digits) 'D'

/-- The components behind the `T`. -/
def time (f : Form) : List (List Char × Char) :=
  part (f.hours.map Numeral.digits) 'H' ++ part (f.minutes.map Numeral.digits) 'M' ++
    part (f.seconds.map SecondsNumeral.text) 'S'

/-- The text of a literal. There is a `T` only if there are hours, minutes or seconds. -/
def text (f : Form) : List Char :=
  (if f.negative then ['-'] else []) ++
    'P' :: (flat f.date ++ if f.time.isEmpty then [] else 'T' :: flat f.time)

end Form

/-! ### Cutting a text -/

variable {point : Bool} {letters numeral s : List Char} {l : List (List Char × Char)}

/-- A text that is cut into components is a run of these components. -/
theorem legible_of_components (hnumeral : ∀ c ∈ numeral, isDigit c = true ∨ c = '.' ∧ point = true)
    (h : components point letters numeral s = .ok l) :
    numeral ++ s = flat l ∧ Legible point letters l := by
  -- The numeral that has been begun is carried on to its letter.
  induction s generalizing numeral letters l with
  | nil =>
    unfold components at h
    split at h
    · next hempty =>
      cases h
      rw [List.isEmpty_iff.1 hempty]
      exact ⟨rfl, .nil⟩
    · cases h
  | cons c s ih =>
    unfold components at h
    split at h
    · next hc =>
      have hc' : isDigit c = true ∨ c = '.' ∧ point = true := by simpa using hc
      obtain ⟨hflat, hlegible⟩ := ih (by
        intro x hx
        rcases List.mem_append.1 hx with hx | hx
        · exact hnumeral x hx
        · rw [List.mem_singleton.1 hx]
          exact hc') h
      rw [List.append_assoc] at hflat
      exact ⟨hflat, hlegible⟩
    · split at h
      · cases h
      · next letter later hletter =>
        split at h
        · cases h
        · next hform =>
          obtain ⟨rest, hrest, rfl⟩ := map_eq_ok_iff.1 h
          obtain ⟨hflat, horder, hnumerals⟩ := ih (by simp) hrest
          have hform' : numeral ≠ [] ∧ ('.' ∈ numeral → c = 'S') := by
            simpa [not_or, imp_iff_not_or, or_comm] using hform
          -- The letter is the first one of those that are left.
          have hfound : letter = c := by
            have hhead := List.head?_dropWhile_not (· != c) letters
            rw [hletter] at hhead
            simpa using hhead
          subst hfound
          refine ⟨?_, ?_, ?_⟩
          · rw [flat_cons, ← hflat]
            rfl
          · have hsublist : (letter :: rest.map Prod.snd).Sublist (letter :: later) :=
              horder.cons_cons letter
            rw [← hletter] at hsublist
            exact hsublist.trans (List.dropWhile_sublist _)
          · intro d hd
            rcases List.mem_cons.1 hd with rfl | hd
            · refine ⟨hform'.1, fun x hx => ?_⟩
              rcases hnumeral x hx with hdigit | ⟨rfl, hpoint⟩
              · exact .inl hdigit
              · exact .inr ⟨rfl, hpoint, hform'.2 hx⟩
            · exact hnumerals d hd

/-- A run of components begins with the first letter, or does without it. -/
theorem Legible.exists_part {letter : Char} (h : Legible point (letter :: letters) l) :
    ∃ numeral? l', l = part numeral? letter ++ l' ∧ Legible point letters l' ∧
      ∀ numeral, numeral? = some numeral → numeral ≠ [] ∧
        ∀ c ∈ numeral, isDigit c = true ∨ c = '.' ∧ point = true ∧ letter = 'S' := by
  obtain ⟨horder, hnumeral⟩ := h
  have hwithout (hskip : (l.map Prod.snd).Sublist letters) :
      ∃ numeral? l', l = part numeral? letter ++ l' ∧ Legible point letters l' ∧
        ∀ numeral, numeral? = some numeral → numeral ≠ [] ∧
          ∀ c ∈ numeral, isDigit c = true ∨ c = '.' ∧ point = true ∧ letter = 'S' :=
    ⟨none, l, rfl, ⟨hskip, hnumeral⟩, by rintro numeral ⟨⟩⟩
  cases l with
  | nil => exact hwithout (List.nil_sublist letters)
  | cons c l =>
    rw [List.map_cons] at horder
    obtain ⟨first, hfirst⟩ : ∃ first, c.2 = first := ⟨c.2, rfl⟩
    rw [hfirst] at horder
    cases horder with
    | cons _ hskip => exact hwithout (by rw [List.map_cons, hfirst]; exact hskip)
    | cons_cons _ hrest =>
      subst hfirst
      refine ⟨some c.1, l, rfl, ⟨hrest, fun d hd => hnumeral d (List.mem_cons_of_mem _ hd)⟩, ?_⟩
      rintro numeral ⟨⟩
      exact hnumeral c List.mem_cons_self

theorem Legible.eq_nil (h : Legible point [] l) : l = [] :=
  List.map_eq_nil_iff.1 (List.sublist_nil.1 h.order)

/-- A numeral in which no point may stand consists of digits. -/
theorem exists_numeral {letter : Char} {numeral? : Option (List Char)}
    (hpoint : ¬(point = true ∧ letter = 'S'))
    (h : ∀ numeral, numeral? = some numeral → numeral ≠ [] ∧
      ∀ c ∈ numeral, isDigit c = true ∨ c = '.' ∧ point = true ∧ letter = 'S') :
    ∃ n? : Option Numeral, numeral? = n?.map Numeral.digits := by
  cases numeral? with
  | none => exact ⟨none, rfl⟩
  | some numeral =>
    obtain ⟨hne, hchars⟩ := h numeral rfl
    have hdigits : numeral.all isDigit = true := by
      rw [List.all_eq_true]
      intro c hc
      rcases hchars c hc with hdigit | ⟨-, hallowed⟩
      · exact hdigit
      · exact absurd hallowed hpoint
    exact ⟨some ⟨numeral, hne, hdigits⟩, rfl⟩

/-- A component that is there is legible if its numeral is. -/
theorem legible_part {letter : Char} {numeral? : Option (List Char)}
    (h : ∀ numeral, numeral? = some numeral → numeral ≠ [] ∧
      ∀ c ∈ numeral, isDigit c = true ∨ c = '.' ∧ point = true ∧ letter = 'S') :
    Legible point [letter] (part numeral? letter) := by
  cases numeral? with
  | none => exact .nil
  | some numeral =>
    refine ⟨List.Sublist.refl _, ?_⟩
    intro c hc
    rw [List.mem_singleton.1 hc]
    exact h numeral rfl

theorem legible_digits {letter : Char} (n? : Option Numeral) :
    Legible point [letter] (part (n?.map Numeral.digits) letter) := by
  apply legible_part
  intro numeral hnumeral
  obtain ⟨n, -, rfl⟩ := Option.map_eq_some_iff.1 hnumeral
  exact ⟨n.ne_nil, fun c hc => .inl (n.isDigit_of_mem c hc)⟩

namespace Form

variable (f : Form)

theorem legible_date : Legible false ['Y', 'M', 'D'] f.date :=
  ((legible_digits f.years).append (legible_digits f.months)).append (legible_digits f.days)

theorem legible_time : Legible true ['H', 'M', 'S'] f.time := by
  refine ((legible_digits f.hours).append (legible_digits f.minutes)).append (legible_part ?_)
  intro numeral hnumeral
  obtain ⟨n, -, rfl⟩ := Option.map_eq_some_iff.1 hnumeral
  refine ⟨n.text_ne_nil, fun c hc => ?_⟩
  exact (n.isDigit_or_point c hc).imp_right fun hpoint => ⟨hpoint, rfl, rfl⟩

/-- Some component is there. -/
theorem ne_nil : f.date ≠ [] ∨ f.time ≠ [] := by
  by_contra hno
  obtain ⟨hdate, htime⟩ := not_or.1 hno
  have hnone {numeral? : Option (List Char)} {letter : Char} (h : part numeral? letter = []) :
      numeral? = none := by
    cases numeral? with
    | none => rfl
    | some numeral => cases h
  simp only [not_not, date, time, List.append_eq_nil_iff] at hdate htime
  have hany := f.any_part
  rw [Option.map_eq_none_iff.1 (hnone hdate.1.1), Option.map_eq_none_iff.1 (hnone hdate.1.2),
    Option.map_eq_none_iff.1 (hnone hdate.2), Option.map_eq_none_iff.1 (hnone htime.1.1),
    Option.map_eq_none_iff.1 (hnone htime.1.2), Option.map_eq_none_iff.1 (hnone htime.2)] at hany
  cases hany

/-- No literal has white space in it. -/
theorem isUnicodeSpace_of_mem {c : Char} (hc : c ∈ f.text) : isUnicodeSpace c = false := by
  have hletters : ['Y', 'M', 'D', 'H', 'S'].all (fun x => !isUnicodeSpace x) = true := by decide
  have hflat {point : Bool} {letters : List Char} {l : List (List Char × Char)}
      (hl : Legible point letters l) (hin : letters ⊆ ['Y', 'M', 'D', 'H', 'S'])
      (h : c ∈ flat l) : isUnicodeSpace c = false := by
    rcases mem_flat hl h with hdigit | rfl | hletter
    · exact isUnicodeSpace_of_isDigit hdigit
    · rfl
    · simpa using List.all_eq_true.1 hletters c (hin hletter)
  rcases List.mem_append.1 hc with hsign | hbody
  · split at hsign
    · rw [List.mem_singleton.1 hsign]
      rfl
    · cases hsign
  · rcases List.mem_cons.1 hbody with rfl | hbody
    · rfl
    · rcases List.mem_append.1 hbody with hdate | htime
      · exact hflat f.legible_date (by decide) hdate
      · split at htime
        · cases htime
        · rcases List.mem_cons.1 htime with rfl | htime
          · rfl
          · exact hflat f.legible_time (by decide) htime

end Form

end XPathData.DurationLiteral
