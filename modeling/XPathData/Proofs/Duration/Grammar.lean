import XPathData.Proofs.Decimal.Fitting
import XPathData.Proofs.Duration.Form

/-! # The grammar of durations

  The texts of durations are read, and no others. Months are added up exactly, and so are seconds as
  long as they are whole. A fraction of a second comes last, and the total is rounded to what fits.

  * `DurationLiteral.addUp` — the parts added up, before the `T` and behind it
  * `DurationLiteral.Form.Reads` — the texts that are read
  * `DurationLiteral.Form.Denotes` — the totals of the parts
  * `DurationLiteral.duration_literals` — which texts are read, and as what
  * `DurationLiteral.duration_literals_rounded` — a sum of parts that is rounded
-/

namespace XPathData.DurationLiteral

open Text Reading

variable {point : Bool} {letters numeral s : List Char} {l : List (List Char × Char)}
  {n : Numeral} {S : Decimal}

/-! ### Adding up the parts -/

/-- The number of a component; zero if it is left out. -/
def amount (n? : Option Numeral) : Nat := (n?.map Numeral.value).getD 0

/-- The first number that whole components cannot have. -/
abbrev wholeLimit : Nat := 0x8000000000000000

variable {t u : DurationLiteral} {letter : Char} {k w : Nat}

/-- Months are added to those before them, and the totals have 64 bits. -/
theorem foldlM_months {factor : Signed64} (n? : Option Numeral)
    (hf : ∀ numeral, addDateComponent t (numeral, letter) =
      readWhole numeral >>= fun n => t.addMonths n factor)
    (hfactor : factor.val = k) (hk : 1 ≤ k) (ht : 0 ≤ t.months ∧ t.months < wholeLimit) :
    (part (n?.map Numeral.digits) letter).foldlM addDateComponent t = .ok u ↔
      (amount n? * k : Nat) + t.months < wholeLimit ∧
        u = { t with
          months := (amount n? * k : Nat) + t.months, hasMonths := t.hasMonths || n?.isSome } := by
  cases n? with
  | none =>
    have hnone : (amount none * k : Nat) + t.months = t.months := by
      rw [amount, Option.map_none, Option.getD_none, Nat.zero_mul, Nat.cast_zero, Int.zero_add]
    rw [hnone, Option.isSome_none, Bool.or_false]
    constructor
    · rintro ⟨⟩
      exact ⟨ht.2, rfl⟩
    · rintro ⟨-, rfl⟩
      rfl
  | some n =>
    have hle : n.value ≤ n.value * k := Nat.le_mul_of_pos_right _ hk
    have hamount : amount (some n) = n.value := rfl
    have hlimit : wholeLimit = 0x8000000000000000 := rfl
    rw [hamount, Option.isSome_some, Bool.or_true]
    show (addDateComponent t (n.digits, letter) >>= Except.ok) = _ ↔ _
    rw [hf, bind_eq_ok_iff]
    constructor
    · rintro ⟨u', hadd, ⟨⟩⟩
      obtain ⟨x, hx, hadd⟩ := bind_eq_ok_iff.1 hadd
      obtain ⟨product, hproduct, hadd⟩ := bind_eq_ok_iff.1 hadd
      obtain ⟨total, htotal, hadd⟩ := bind_eq_ok_iff.1 hadd
      cases hadd
      have hxval := readWhole_eq_ok_iff.1 hx
      have hpval : product.val = (n.value * k : Nat) := by
        rw [Bounded.ofInt?_eq_some_iff.1 (orOutOfRange_eq_ok_iff.1 hproduct), hxval, hfactor,
          Nat.cast_mul]
      have htval := Bounded.ofInt?_eq_some_iff.1 (orOutOfRange_eq_ok_iff.1 htotal)
      rw [hpval] at htval
      have hhigh := total.le_high
      refine ⟨by omega, ?_⟩
      rw [htval]
    · rintro ⟨hlt, rfl⟩
      let x : Signed64 := ⟨n.value, by omega, by omega⟩
      let product : Signed64 := ⟨(n.value * k : Nat), by omega, by omega⟩
      let total : Signed64 := ⟨(n.value * k : Nat) + t.months, by omega, by omega⟩
      have hproduct : x.mul? factor = some product := by
        rw [Bounded.mul?, Bounded.ofInt?_eq_some_iff, hfactor]
        exact Nat.cast_mul _ _
      have htotal : (Bounded.ofInt? (product.val + t.months) : Option Signed64) = some total :=
        Bounded.ofInt?_eq_some_iff.2 rfl
      refine ⟨_, ?_, rfl⟩
      rw [readWhole_eq_ok_iff.2 (show x.val = n.value from rfl)]
      show t.addMonths x factor = _
      rw [addMonths, hproduct]
      show (orOutOfRange (Bounded.ofInt? (product.val + t.months)) >>= _) = _
      rw [htotal]
      rfl

/-- Whole units of time are added to whole seconds before them, for which there is always room. -/
theorem foldlM_whole {f : DurationLiteral → List Char × Char → Reading DurationLiteral}
    (n? : Option Numeral)
    (hf : ∀ numeral, f t (numeral, letter) =
      readWhole numeral >>= fun n => t.addSeconds (.ofSigned64 n) (unit letter))
    (hunit : (unit letter).IsWhole k) (ht : t.seconds.IsWhole w)
    (hroom : wholeLimit * k + w < coefficientLimit) :
    (part (n?.map Numeral.digits) letter).foldlM f t = .ok u ↔
      amount n? < wholeLimit ∧ ∃ total : Decimal, total.IsWhole (amount n? * k + w) ∧
        u = { t with seconds := total, hasSeconds := t.hasSeconds || n?.isSome } := by
  cases n? with
  | none =>
    have hnone : amount none * k + w = w := by
      rw [amount, Option.map_none, Option.getD_none, Nat.zero_mul, Nat.zero_add]
    rw [hnone, Option.isSome_none, Bool.or_false]
    constructor
    · rintro ⟨⟩
      exact ⟨by decide, t.seconds, ht, rfl⟩
    · rintro ⟨-, total, htotal, rfl⟩
      rw [htotal.unique ht]
      rfl
  | some n =>
    have hamount : amount (some n) = n.value := rfl
    have hlimit : wholeLimit = 0x8000000000000000 := rfl
    rw [hamount, Option.isSome_some, Bool.or_true]
    -- A number of 64 bits leaves room for the product and the sum.
    have hadd (x : Signed64) (hx : x.val = n.value) (hlt : n.value < wholeLimit) :
        ∃ total : Decimal, total.IsWhole (n.value * k + w) ∧
          t.addSeconds (.ofSigned64 x) (unit letter) =
            .ok { t with seconds := total, hasSeconds := true } := by
      have hle : n.value * k ≤ wholeLimit * k := Nat.mul_le_mul_right k hlt.le
      have hwhole : (Decimal.ofSigned64 x).IsWhole n.value := ⟨hx, rfl⟩
      obtain ⟨product, hmul, hproduct⟩ := hwhole.exists_mul hunit (by omega)
      obtain ⟨total, hsum, htotal⟩ := hproduct.exists_add ht (by omega)
      refine ⟨total, htotal, ?_⟩
      rw [addSeconds, hmul]
      show (orOutOfRange (product.add? t.seconds) >>= _) = _
      rw [hsum]
      rfl
    show (f t (n.digits, letter) >>= Except.ok) = _ ↔ _
    rw [hf, bind_eq_ok_iff]
    constructor
    · rintro ⟨u', hread, ⟨⟩⟩
      obtain ⟨x, hx, hread⟩ := bind_eq_ok_iff.1 hread
      have hxval := readWhole_eq_ok_iff.1 hx
      have hhigh := x.le_high
      have hlt : n.value < wholeLimit := by omega
      obtain ⟨total, htotal, hok⟩ := hadd x hxval hlt
      rw [hok] at hread
      cases hread
      exact ⟨hlt, total, htotal, rfl⟩
    · rintro ⟨hlt, total, htotal, rfl⟩
      let x : Signed64 := ⟨n.value, by omega, by omega⟩
      obtain ⟨total', htotal', hok⟩ := hadd x rfl hlt
      refine ⟨_, ?_, rfl⟩
      rw [readWhole_eq_ok_iff.2 (show x.val = n.value from rfl), htotal.unique htotal']
      exact hok

/-- The seconds of a literal, zero if they are left out. -/
def SecondsRead (numeral? : Option (List Char)) (S : Decimal) : Prop :=
  match numeral? with
  | none => S = .zero
  | some numeral => readSeconds numeral = .ok S

/-- Seconds are added to whole seconds before them, and the sum is rounded to what fits. -/
theorem foldlM_seconds {numeral? : Option (List Char)} (ht : t.seconds.IsWhole w) :
    (part numeral? 'S').foldlM addTimeComponent t = .ok u ↔
      ∃ S, SecondsRead numeral? S ∧ ∃ r, Decimal.Rounded (S.value + w) S.scale r ∧
        u = { t with seconds := r, hasSeconds := t.hasSeconds || numeral?.isSome } := by
  cases numeral? with
  | none =>
    have hzero : Decimal.zero.value + w = w := by rw [Decimal.value_zero, zero_add]
    constructor
    · rintro ⟨⟩
      refine ⟨.zero, rfl, t.seconds, ?_, by simp⟩
      rw [hzero]
      exact ht.rounded
    · rintro ⟨S, hS, r, hr, rfl⟩
      cases hS
      rw [hzero] at hr
      rw [hr.unique ht.rounded, Option.isSome_none, Bool.or_false]
      rfl
  | some numeral =>
    have hone : (unit 'S').IsWhole 1 := ⟨rfl, rfl⟩
    have hadd (S : Decimal) : t.addSeconds S (unit 'S') = .ok u ↔
        ∃ r, Decimal.Rounded (S.value + w) S.scale r ∧
          u = { t with seconds := r, hasSeconds := true } := by
      have hsum (r : Decimal) :
          S.add? t.seconds = some r ↔ Decimal.Rounded (S.value + w) S.scale r := by
        rw [Decimal.add?_eq_some_iff, ht.value_eq, ht.scale_eq, Nat.max_zero]
      rw [addSeconds, hone.mul_one S]
      show (orOutOfRange (S.add? t.seconds) >>= _) = _ ↔ _
      rw [bind_eq_ok_iff]
      constructor
      · rintro ⟨r, hr, ⟨⟩⟩
        exact ⟨r, (hsum r).1 (orOutOfRange_eq_ok_iff.1 hr), rfl⟩
      · rintro ⟨r, hr, rfl⟩
        exact ⟨r, orOutOfRange_eq_ok_iff.2 ((hsum r).2 hr), rfl⟩
    rw [Option.isSome_some, Bool.or_true]
    show (addTimeComponent t (numeral, 'S') >>= Except.ok) = _ ↔ _
    have hstep : addTimeComponent t (numeral, 'S') =
        readSeconds numeral >>= fun S => t.addSeconds S (unit 'S') := rfl
    rw [hstep, bind_eq_ok_iff]
    constructor
    · rintro ⟨u', hread, ⟨⟩⟩
      obtain ⟨S, hS, hread⟩ := bind_eq_ok_iff.1 hread
      exact ⟨S, hS, (hadd S).1 hread⟩
    · rintro ⟨S, hS, hu⟩
      exact ⟨u, bind_eq_ok_iff.2 ⟨S, hS, (hadd S).2 hu⟩, rfl⟩

/-- The totals of the components before the `T` and behind it. -/
def addUp (date time : List (List Char × Char)) : Reading DurationLiteral :=
  date.foldlM addDateComponent ⟨0, .zero, false, false⟩ >>= fun t =>
    time.foldlM addTimeComponent t

/-- The components before the `T` give months and whole seconds. -/
theorem foldlM_date (years? months? days? : Option Numeral) :
    (part (years?.map Numeral.digits) 'Y' ++ part (months?.map Numeral.digits) 'M' ++
        part (days?.map Numeral.digits) 'D').foldlM addDateComponent
          ⟨0, .zero, false, false⟩ = .ok t ↔
      (12 * amount years? + amount months? < wholeLimit ∧ amount days? < wholeLimit) ∧
        t.months = (12 * amount years? + amount months? : Nat) ∧
        t.seconds.IsWhole (86400 * amount days?) ∧
        t.hasMonths = (years?.isSome || months?.isSome) ∧ t.hasSeconds = days?.isSome := by
  have hlimit : wholeLimit = 0x8000000000000000 := rfl
  have hzero : Decimal.zero.IsWhole 0 := ⟨rfl, rfl⟩
  have hunit : (unit 'D').IsWhole 86400 := ⟨rfl, rfl⟩
  rw [List.foldlM_append, List.foldlM_append]
  constructor
  · intro h
    obtain ⟨t₂, h, h₃⟩ := bind_eq_ok_iff.1 h
    obtain ⟨t₁, h₁, h₂⟩ := bind_eq_ok_iff.1 h
    obtain ⟨hyears, rfl⟩ := (foldlM_months (k := 12) years? (fun _ => rfl) rfl (by decide)
      (by decide)).1 h₁
    obtain ⟨hmonths, rfl⟩ := (foldlM_months (k := 1) months? (fun _ => rfl) rfl (by decide)
      (by dsimp only at hyears ⊢; omega)).1 h₂
    obtain ⟨hdays, total, htotal, rfl⟩ := (foldlM_whole days? (fun _ => rfl) hunit hzero
      (by decide)).1 h₃
    rw [Nat.add_zero, Nat.mul_comm] at htotal
    dsimp only at hmonths ⊢
    exact ⟨⟨by omega, hdays⟩, by omega, htotal, Bool.false_or _ ▸ rfl, Bool.false_or _⟩
  · rintro ⟨⟨hmonths, hdays⟩, hm, hs, hflag, hflag'⟩
    have htotal : t.seconds.IsWhole (amount days? * 86400 + 0) := by
      rw [Nat.add_zero, Nat.mul_comm]
      exact hs
    refine bind_eq_ok_iff.2 ⟨_, bind_eq_ok_iff.2 ⟨_, (foldlM_months (k := 12) years?
      (fun _ => rfl) rfl (by decide) (by decide)).2 ⟨?_, rfl⟩, (foldlM_months (k := 1) months?
      (fun _ => rfl) rfl (by decide) ?_).2 ⟨?_, rfl⟩⟩, (foldlM_whole days? (fun _ => rfl) hunit
      hzero (by decide)).2 ⟨hdays, t.seconds, htotal, ?_⟩⟩
    · dsimp only
      omega
    · dsimp only
      omega
    · dsimp only
      omega
    · obtain ⟨m, seconds, b, b'⟩ := t
      dsimp only at hm hflag hflag' ⊢
      rw [hm, hflag, hflag', Bool.false_or, Bool.false_or]
      congr 1
      omega

/-- The components behind the `T` add seconds, of which only the last ones may have places. -/
theorem foldlM_time (hours? minutes? : Option Numeral) (numeral? : Option (List Char))
    (ht : t.seconds.IsWhole w) (hw : w ≤ 86400 * wholeLimit) :
    (part (hours?.map Numeral.digits) 'H' ++ part (minutes?.map Numeral.digits) 'M' ++
        part numeral? 'S').foldlM addTimeComponent t = .ok u ↔
      (amount hours? < wholeLimit ∧ amount minutes? < wholeLimit) ∧
        ∃ S, SecondsRead numeral? S ∧
          Decimal.Rounded (S.value + (w + 3600 * amount hours? + 60 * amount minutes? : Nat)) S.scale
            u.seconds ∧
          u.months = t.months ∧ u.hasMonths = t.hasMonths ∧
          u.hasSeconds =
            (t.hasSeconds || hours?.isSome || minutes?.isSome || numeral?.isSome) := by
  have hlimit : wholeLimit = 0x8000000000000000 := rfl
  have hhour : (unit 'H').IsWhole 3600 := ⟨rfl, rfl⟩
  have hminute : (unit 'M').IsWhole 60 := ⟨rfl, rfl⟩
  have hsum : amount minutes? * 60 + (amount hours? * 3600 + w) =
      w + 3600 * amount hours? + 60 * amount minutes? := by omega
  rw [List.foldlM_append, List.foldlM_append]
  constructor
  · intro h
    obtain ⟨t₂, h, h₃⟩ := bind_eq_ok_iff.1 h
    obtain ⟨t₁, h₁, h₂⟩ := bind_eq_ok_iff.1 h
    obtain ⟨hhours, total, htotal, rfl⟩ := (foldlM_whole hours? (fun _ => rfl) hhour ht
      (by simp only [coefficientLimit]; omega)).1 h₁
    obtain ⟨hminutes, total', htotal', rfl⟩ := (foldlM_whole minutes? (fun _ => rfl) hminute htotal
      (by simp only [coefficientLimit]; omega)).1 h₂
    obtain ⟨S, hS, r, hr, rfl⟩ := (foldlM_seconds htotal').1 h₃
    rw [hsum] at hr
    exact ⟨⟨hhours, hminutes⟩, S, hS, hr, rfl, rfl, rfl⟩
  · rintro ⟨⟨hhours, hminutes⟩, S, hS, hr, hm, hflag, hflag'⟩
    rw [← hsum] at hr
    obtain ⟨total, htotal⟩ := Decimal.exists_isWhole (n := amount hours? * 3600 + w)
      (by simp only [coefficientLimit]; omega)
    obtain ⟨total', htotal'⟩ := Decimal.exists_isWhole
      (n := amount minutes? * 60 + (amount hours? * 3600 + w))
      (by simp only [coefficientLimit]; omega)
    refine bind_eq_ok_iff.2 ⟨_, bind_eq_ok_iff.2 ⟨_, (foldlM_whole hours? (fun _ => rfl) hhour ht
      ?_).2 ⟨hhours, total, htotal, rfl⟩, (foldlM_whole minutes? (fun _ => rfl) hminute htotal
      ?_).2 ⟨hminutes, total', htotal', rfl⟩⟩, (foldlM_seconds htotal').2 ⟨S, hS, u.seconds, hr,
      ?_⟩⟩
    · simp only [coefficientLimit]
      omega
    · simp only [coefficientLimit]
      omega
    · obtain ⟨m, seconds, b, b'⟩ := u
      dsimp only at hm hflag hflag' ⊢
      rw [hm, hflag, hflag']

/-! ### Reading -/

/-- What is read as components are two runs of them, of which one may be missing. -/
theorem exists_runs (h : readComponents s = .ok u) :
    ∃ date time, Legible false ['Y', 'M', 'D'] date ∧ Legible true ['H', 'M', 'S'] time ∧
      (date ≠ [] ∨ time ≠ []) ∧ s = flat date ++ (if time.isEmpty then [] else 'T' :: flat time) ∧
      addUp date time = .ok u := by
  -- Without a `T` there is no text behind it, and with one this text is not empty.
  have hread {dateText timeText : List Char}
      (hcut : s = dateText ++ if timeText.isEmpty then [] else 'T' :: timeText)
      (h : (components false ['Y', 'M', 'D'] [] dateText >>= fun date =>
        date.foldlM addDateComponent ⟨0, .zero, false, false⟩ >>= fun t =>
          components true ['H', 'M', 'S'] [] timeText >>= fun time =>
            time.foldlM addTimeComponent t >>= fun u =>
              if date.isEmpty && time.isEmpty then .error .malformed else .ok u) = .ok u) :
      ∃ date time, Legible false ['Y', 'M', 'D'] date ∧ Legible true ['H', 'M', 'S'] time ∧
        (date ≠ [] ∨ time ≠ []) ∧
        s = flat date ++ (if time.isEmpty then [] else 'T' :: flat time) ∧
        addUp date time = .ok u := by
    obtain ⟨date, hdate, h⟩ := bind_eq_ok_iff.1 h
    obtain ⟨t, ht, h⟩ := bind_eq_ok_iff.1 h
    obtain ⟨time, htime, h⟩ := bind_eq_ok_iff.1 h
    obtain ⟨u', hu, h⟩ := bind_eq_ok_iff.1 h
    split at h
    · cases h
    · next hne =>
      cases h
      obtain ⟨hdateText, hlegible⟩ := legible_of_components (by simp) hdate
      obtain ⟨htimeText, hlegible'⟩ := legible_of_components (by simp) htime
      rw [List.nil_append] at hdateText htimeText
      have hempty : timeText.isEmpty = time.isEmpty := by
        rw [htimeText, Bool.eq_iff_iff, List.isEmpty_iff, List.isEmpty_iff, flat_eq_nil_iff]
      refine ⟨date, time, hlegible, hlegible', ?_, ?_, bind_eq_ok_iff.2 ⟨t, ht, hu⟩⟩
      · rw [Bool.and_eq_true, List.isEmpty_iff, List.isEmpty_iff, not_and_or] at hne
        exact hne
      · rw [hcut, hempty, hdateText, htimeText]
  unfold readComponents at h
  cases hsplit : splitFirst 'T' s with
  | none =>
    rw [hsplit] at h
    have hcut : s = s ++ if ([] : List Char).isEmpty then [] else 'T' :: [] := by
      rw [List.isEmpty_nil, if_pos rfl, List.append_nil]
    exact hread hcut h
  | some cut =>
    obtain ⟨dateText, timeText⟩ := cut
    rw [hsplit] at h
    dsimp only at h
    split at h
    · cases h
    · next hT =>
      have hsome : timeText.isEmpty = false := by
        rw [List.isEmpty_eq_false_iff]
        rintro rfl
        exact hT rfl
      have hcut : s = dateText ++ if timeText.isEmpty then [] else 'T' :: timeText := by
        rw [hsome, if_neg Bool.false_ne_true]
        exact splitFirst_eq_some hsplit
      exact hread hcut h

theorem read_eq_ok_iff :
    read s = .ok u ↔ ∃ (negative : Bool) (rest : List Char) (t : DurationLiteral),
      trim isUnicodeSpace s = (if negative then ['-'] else []) ++ 'P' :: rest ∧
        readComponents rest = .ok t ∧ u = if negative then t.neg else t := by
  have hlead {rest body : List Char} (h : orMalformed (dropLead? ['P'] rest) = .ok body) :
      rest = 'P' :: body :=
    (List.isPrefixOf?_eq_some_iff_append_eq.1 (orMalformed_eq_ok_iff.1 h)).symm
  unfold read
  generalize trim isUnicodeSpace s = s'
  constructor
  · intro h
    split at h
    next negative rest hsign =>
      obtain ⟨body, hbody, h⟩ := bind_eq_ok_iff.1 h
      obtain ⟨t, ht, h⟩ := bind_eq_ok_iff.1 h
      cases h
      refine ⟨negative, body, t, ?_, ht, rfl⟩
      split at hsign
      · cases hsign
        rw [hlead hbody]
        rfl
      · cases hsign
        rw [hlead hbody]
        rfl
  · rintro ⟨negative, rest, t, rfl, ht, rfl⟩
    cases negative with
    | true =>
      show (readComponents rest >>= fun t => .ok t.neg) = _
      rw [ht]
      rfl
    | false =>
      show (readComponents rest >>= fun t => .ok t) = _
      rw [ht]
      rfl

/-! ### What a literal denotes -/

namespace Form

/-- The sign of all totals. -/
def sign (f : Form) : Int := if f.negative then -1 else 1

/-- The months of a literal, without its sign. -/
def totalMonths (f : Form) : Nat := 12 * amount f.years + amount f.months

/-- The seconds of a literal, without its sign, if its numeral of seconds is read as `S`. -/
def totalSeconds (f : Form) (S : Decimal) : ℚ :=
  86400 * amount f.days + 3600 * amount f.hours + 60 * amount f.minutes + S.value

/-- The number that the numeral of seconds is read as; zero if there is none. -/
def seconds? (f : Form) : Option Decimal :=
  match f.seconds with
  | none => some .zero
  | some n => Decimal.read? n.text

/-- Whole components and the months have 64 bits, and the seconds fit into a decimal number. -/
structure InRange (f : Form) (S : Decimal) : Prop where
  years_lt : amount f.years < wholeLimit
  months_lt : amount f.months < wholeLimit
  days_lt : amount f.days < wholeLimit
  hours_lt : amount f.hours < wholeLimit
  minutes_lt : amount f.minutes < wholeLimit
  totalMonths_lt : f.totalMonths < wholeLimit
  totalSeconds_lt : |f.totalSeconds S| < (coefficientLimit : ℚ) - 1 / 2

/-- The text is that of a literal with white space around it. Its numeral of seconds is read as
    `S`, and all of its numbers are in range. -/
def Reads (f : Form) (s : List Char) (S : Decimal) : Prop :=
  (∃ before after, s = before ++ f.text ++ after ∧ ∀ c ∈ before ++ after, isUnicodeSpace c = true) ∧
    f.seconds? = some S ∧ f.InRange S

/-- The totals of a literal, and which of them it has. The seconds are rounded to what fits, with
    no more places than the numeral of seconds has. -/
structure Denotes (f : Form) (S : Decimal) (u : DurationLiteral) : Prop where
  months : u.months = f.sign * f.totalMonths
  seconds : Decimal.Rounded (f.sign * f.totalSeconds S) S.scale u.seconds
  hasMonths : u.hasMonths = (f.years.isSome || f.months.isSome)
  hasSeconds : u.hasSeconds =
    (f.days.isSome || f.hours.isSome || f.minutes.isSome || f.seconds.isSome)

/-- The totals of a literal without its sign. -/
structure AddsUpTo (f : Form) (S : Decimal) (t : DurationLiteral) : Prop where
  months : t.months = f.totalMonths
  seconds : Decimal.Rounded (f.totalSeconds S) S.scale t.seconds
  hasMonths : t.hasMonths = (f.years.isSome || f.months.isSome)
  hasSeconds : t.hasSeconds =
    (f.days.isSome || f.hours.isSome || f.minutes.isSome || f.seconds.isSome)

variable {f : Form}

theorem secondsRead_iff : SecondsRead (f.seconds.map SecondsNumeral.text) S ↔ f.seconds? = some S := by
  unfold SecondsRead seconds?
  cases f.seconds with
  | none => simp [eq_comm]
  | some n =>
    show readSeconds n.text = .ok S ↔ _
    rw [n.readSeconds_eq, orMalformed_eq_ok_iff]

/-- The seconds are whole ones, and those of the last numeral. -/
theorem totalSeconds_eq (f : Form) (S : Decimal) :
    f.totalSeconds S = S.value + (86400 * amount f.days + 3600 * amount f.hours +
      60 * amount f.minutes : Nat) := by
  rw [totalSeconds]
  push_cast
  ring

theorem exists_rounded (f : Form) (h : f.InRange S) :
    ∃ r, Decimal.Rounded (f.totalSeconds S) S.scale r := by
  have hfits := h.totalSeconds_lt
  have hdays := h.days_lt
  have hhours := h.hours_lt
  have hminutes := h.minutes_lt
  rw [totalSeconds_eq] at hfits ⊢
  obtain ⟨whole, hwhole⟩ := Decimal.exists_isWhole
    (n := 86400 * amount f.days + 3600 * amount f.hours + 60 * amount f.minutes)
    (by simp only [coefficientLimit, wholeLimit] at *; omega)
  exact hwhole.exists_rounded hfits

/-- The components of a literal are added up to its totals. -/
theorem addUp_eq_ok_iff :
    addUp f.date f.time = .ok t ↔
      (f.totalMonths < wholeLimit ∧ amount f.days < wholeLimit ∧ amount f.hours < wholeLimit ∧
        amount f.minutes < wholeLimit) ∧ ∃ S, f.seconds? = some S ∧ f.AddsUpTo S t := by
  have hbound (hdays : amount f.days < wholeLimit) :
      86400 * amount f.days ≤ 86400 * wholeLimit :=
    Nat.mul_le_mul_left 86400 hdays.le
  rw [addUp, bind_eq_ok_iff]
  constructor
  · rintro ⟨t', hdate, htime⟩
    obtain ⟨⟨hmonths, hdays⟩, hm, hs, hflag, hflag'⟩ := (foldlM_date _ _ _).1 hdate
    obtain ⟨⟨hhours, hminutes⟩, S, hS, hr, hm', hflagM, hflagS⟩ :=
      (foldlM_time _ _ _ hs (hbound hdays)).1 htime
    rw [← totalSeconds_eq] at hr
    rw [hflag', Option.isSome_map] at hflagS
    exact ⟨⟨hmonths, hdays, hhours, hminutes⟩, S, secondsRead_iff.1 hS, hm'.trans hm, hr,
      hflagM.trans hflag, hflagS⟩
  · rintro ⟨⟨hmonths, hdays, hhours, hminutes⟩, S, hS, htotals⟩
    have hr := htotals.seconds
    have hflag := htotals.hasSeconds
    rw [totalSeconds_eq] at hr
    rw [← Option.isSome_map (f := SecondsNumeral.text)] at hflag
    obtain ⟨whole, hwhole⟩ := Decimal.exists_isWhole (n := 86400 * amount f.days)
      (by simp only [coefficientLimit, wholeLimit] at *; omega)
    exact ⟨⟨f.totalMonths, whole, f.years.isSome || f.months.isSome, f.days.isSome⟩,
      (foldlM_date _ _ _).2 ⟨⟨hmonths, hdays⟩, rfl, hwhole, rfl, rfl⟩,
      (foldlM_time _ _ _ hwhole (hbound hdays)).2 ⟨⟨hhours, hminutes⟩, S, secondsRead_iff.2 hS, hr,
        htotals.months, htotals.hasMonths, hflag⟩⟩

/-- Two runs that are read are the components of a literal. -/
theorem exists_form (negative : Bool) {date time : List (List Char × Char)}
    (hdate : Legible false ['Y', 'M', 'D'] date) (htime : Legible true ['H', 'M', 'S'] time)
    (hne : date ≠ [] ∨ time ≠ [])
    (hread : addUp date time = .ok u) :
    ∃ f : Form, f.negative = negative ∧ f.date = date ∧ f.time = time := by
  obtain ⟨years?, date₁, rfl, hdate₁, hyears⟩ := hdate.exists_part
  obtain ⟨months?, date₂, rfl, hdate₂, hmonths⟩ := hdate₁.exists_part
  obtain ⟨days?, date₃, rfl, hdate₃, hdays⟩ := hdate₂.exists_part
  obtain ⟨hours?, time₁, rfl, htime₁, hhours⟩ := htime.exists_part
  obtain ⟨minutes?, time₂, rfl, htime₂, hminutes⟩ := htime₁.exists_part
  obtain ⟨numeral?, time₃, rfl, htime₃, hnumeral⟩ := htime₂.exists_part
  obtain ⟨years, rfl⟩ := exists_numeral (by simp) hyears
  obtain ⟨months, rfl⟩ := exists_numeral (by simp) hmonths
  obtain ⟨days, rfl⟩ := exists_numeral (by simp) hdays
  obtain ⟨hours, rfl⟩ := exists_numeral (by simp) hhours
  obtain ⟨minutes, rfl⟩ := exists_numeral (by simp) hminutes
  obtain rfl := hdate₃.eq_nil
  obtain rfl := htime₃.eq_nil
  simp only [List.append_nil, ← List.append_assoc] at hne hread ⊢
  -- The numeral of seconds is not only cut out, but read.
  obtain ⟨seconds, rfl⟩ : ∃ n? : Option SecondsNumeral, numeral? = n?.map SecondsNumeral.text := by
    obtain ⟨t, ht, hread⟩ := bind_eq_ok_iff.1 hread
    obtain ⟨⟨-, hdays⟩, -, hs, -⟩ := (foldlM_date _ _ _).1 ht
    obtain ⟨-, S, hS, -⟩ := (foldlM_time _ _ _ hs (Nat.mul_le_mul_left 86400 hdays.le)).1 hread
    cases numeral? with
    | none => exact ⟨none, rfl⟩
    | some numeral =>
      obtain ⟨hne, hchars⟩ := hnumeral numeral rfl
      obtain ⟨n, rfl⟩ := exists_secondsNumeral hne (fun c hc => (hchars c hc).imp_right And.left) hS
      exact ⟨some n, rfl⟩
  refine ⟨⟨negative, years, months, days, hours, minutes, seconds, ?_⟩, rfl, rfl, rfl⟩
  by_contra hno
  simp only [Bool.not_eq_true, Bool.or_eq_false_iff, Option.isSome_eq_false_iff,
    Option.isNone_iff_eq_none] at hno
  obtain ⟨⟨⟨⟨⟨rfl, rfl⟩, rfl⟩, rfl⟩, rfl⟩, rfl⟩ := hno
  rcases hne with h | h <;> exact h rfl

/-- With the sign they are what the literal denotes. -/
theorem AddsUpTo.denotes (h : f.AddsUpTo S t) : f.Denotes S (if f.negative then t.neg else t) := by
  cases hnegative : f.negative with
  | true =>
    have hsign : f.sign = -1 := if_pos hnegative
    refine ⟨?_, ?_, h.hasMonths, h.hasSeconds⟩
    · show -t.months = _
      rw [hsign, h.months, Int.neg_one_mul]
    · show Decimal.Rounded _ _ t.seconds.neg
      rw [hsign, Int.cast_neg, Int.cast_one, neg_one_mul]
      exact h.seconds.neg
  | false =>
    have hsign : f.sign = 1 := if_neg (by rw [hnegative]; decide)
    refine ⟨?_, ?_, h.hasMonths, h.hasSeconds⟩
    · show t.months = _
      rw [hsign, h.months, Int.one_mul]
    · show Decimal.Rounded _ _ t.seconds
      rw [hsign, Int.cast_one, one_mul]
      exact h.seconds

/-- The totals of a literal are the only ones. -/
theorem Denotes.unique (h : f.Denotes S t) (h' : f.Denotes S u) : t = u := by
  have hseconds := h.seconds.unique h'.seconds
  have hmonths := h.months.trans h'.months.symm
  have hflag := h.hasMonths.trans h'.hasMonths.symm
  have hflag' := h.hasSeconds.trans h'.hasSeconds.symm
  cases t
  cases u
  cases hseconds
  cases hmonths
  cases hflag
  cases hflag'
  rfl

/-- Seconds whose digits fit without rounding are exact. -/
theorem Denotes.seconds_exact (h : f.Denotes S u)
    (hfits : |f.totalSeconds S| * 10 ^ S.scale < coefficientLimit) :
    u.seconds.value = f.sign * f.totalSeconds S := by
  have hpos : (0 : ℚ) < 10 ^ S.scale := by positivity
  let digits : Int := f.sign * ((86400 * amount f.days + 3600 * amount f.hours +
    60 * amount f.minutes : Nat) * 10 ^ S.scale + S.coefficient)
  have hdigits : f.sign * f.totalSeconds S * 10 ^ S.scale = digits := by
    have hS : S.value * 10 ^ S.scale = S.coefficient := div_mul_cancel₀ _ hpos.ne'
    rw [mul_assoc, totalSeconds, add_mul, hS]
    simp only [digits]
    push_cast
    ring
  have hsign : |(f.sign : ℚ)| = 1 := by
    unfold sign
    split <;> norm_num
  have habs : ((digits.natAbs : Int) : ℚ) = |f.totalSeconds S| * 10 ^ S.scale := by
    rw [← Int.abs_eq_natAbs, Int.cast_abs, ← hdigits, abs_mul, abs_mul, hsign, one_mul,
      abs_of_pos hpos]
  refine h.seconds.value_eq hdigits ?_
  rw [← habs] at hfits
  exact_mod_cast hfits

/-- The text of a literal whose numbers are in range is read as its totals. -/
theorem Reads.exists_denotes (h : f.Reads s S) : ∃ u, read s = .ok u ∧ f.Denotes S u := by
  obtain ⟨⟨before, after, rfl, hblank⟩, hS, hrange⟩ := h
  obtain ⟨r, hr⟩ := f.exists_rounded hrange
  let t : DurationLiteral := ⟨f.totalMonths, r, f.years.isSome || f.months.isSome,
    f.days.isSome || f.hours.isSome || f.minutes.isSome || f.seconds.isSome⟩
  have htotals : f.AddsUpTo S t := ⟨rfl, hr, rfl, rfl⟩
  have hsum : addUp f.date f.time = .ok t :=
    addUp_eq_ok_iff.2 ⟨⟨hrange.totalMonths_lt, hrange.days_lt, hrange.hours_lt,
      hrange.minutes_lt⟩, S, hS, htotals⟩
  have hcomponents : readComponents (flat f.date ++ _) = .ok t :=
    (readComponents_flat f.legible_date f.legible_time f.ne_nil).trans hsum
  have htrim : trim isUnicodeSpace (before ++ f.text ++ after) = f.text :=
    trim_append hblank fun c hc => f.isUnicodeSpace_of_mem hc
  exact ⟨_, read_eq_ok_iff.2 ⟨f.negative, _, t, htrim, hcomponents, rfl⟩, htotals.denotes⟩

end Form

/-- A text is read as a duration exactly if it is that of a literal with white space around it,
    whose whole components and months have 64 bits and whose seconds fit into a decimal number. The
    result has the totals of the literal, with its sign, and tells which of them there are. The
    seconds are rounded once, with the fraction, to the places of their numeral or to as many as
    there is room for; they are exact if all of these places fit. The numeral itself is read
    exactly if its digits fit. -/
theorem duration_literals (s : List Char) :
    (∀ u, read s = .ok u ↔ ∃ (f : Form) (S : Decimal), f.Reads s S ∧ f.Denotes S u) ∧
    (∀ (f : Form) (S : Decimal), f.Reads s S →
      ∃ u, read s = .ok u ∧ f.Denotes S u ∧
        (|f.totalSeconds S| * 10 ^ S.scale < coefficientLimit →
          u.seconds.value = f.sign * f.totalSeconds S)) ∧
    ∀ n : SecondsNumeral, n.places.length ≤ 28 → readDigits n.digits < coefficientLimit →
      ∃ S, Decimal.read? n.text = some S ∧ S.scale = n.places.length ∧
        S.coefficient = readDigits n.digits := by
  refine ⟨fun u => ⟨fun h => ?_, ?_⟩, ?_, fun n => n.read?_exact⟩
  · obtain ⟨negative, rest, t, htrim, hrest, rfl⟩ := read_eq_ok_iff.1 h
    obtain ⟨date, time, hdate, htime, hne, htext, hread⟩ := exists_runs hrest
    obtain ⟨f, rfl, rfl, rfl⟩ := Form.exists_form negative hdate htime hne hread
    obtain ⟨⟨hmonths, hdays, hhours, hminutes⟩, S, hS, htotals⟩ := Form.addUp_eq_ok_iff.1 hread
    obtain ⟨before, after, hs, hblank⟩ := exists_trim isUnicodeSpace s
    rw [htrim, htext] at hs
    refine ⟨f, S, ⟨⟨before, after, hs, hblank⟩, hS, ?_⟩, htotals.denotes⟩
    have htotal : 12 * amount f.years + amount f.months < wholeLimit := hmonths
    exact ⟨by omega, by omega, hdays, hhours, hminutes, hmonths, htotals.seconds.abs_lt_limit⟩
  · rintro ⟨f, S, hreads, hdenotes⟩
    obtain ⟨t, ht, hdenotes'⟩ := hreads.exists_denotes
    rw [ht, hdenotes'.unique hdenotes]
  · intro f S hreads
    obtain ⟨u, hu, hdenotes⟩ := hreads.exists_denotes
    exact ⟨u, hu, hdenotes, hdenotes.seconds_exact⟩

/-- A day and a fraction of a second with all 28 places: there is no room for five of them, and the
    total is not the sum. -/
theorem duration_literals_rounded :
    let numeral := "0.1234567890123456789012345678"
    ∃ u S, read ("P1DT" ++ numeral ++ "S").toList = .ok u ∧ Decimal.read? numeral.toList = some S ∧
      u.seconds.value ≠ 86400 + S.value := by
  intro numeral
  let u : DurationLiteral := ⟨0, ⟨8640012345678901234567890123, 23, by decide, by decide⟩, false, true⟩
  let S : Decimal := ⟨1234567890123456789012345678, 28, by decide, by decide⟩
  refine ⟨u, S, by decide +kernel, by decide +kernel, ?_⟩
  norm_num [u, S, Decimal.value]

end XPathData.DurationLiteral
