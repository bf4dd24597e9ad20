import XPathData.Proofs.Atomic.FromText
import XPathData.Proofs.Atomic.Key
import XPathData.Proofs.Calendar.DayNumber
import XPathData.Proofs.Decimal.Double

/-! # Equal values with two keys

  Equal values have one key, except in three cases: a duration without months and seconds beside
  a year-month duration without months, fragments with years beyond the calendar, and decimal
  numbers that are written with different scales and give different doubles.

  * `EqualityKey.TwoKeys` — the three cases
  * `EqualityKey.ofDecimal_eq_iff` — keys of decimal numbers with one value
  * `EqualityKey.keysAgree_of_equal` — equal values have one key exactly outside the three cases
-/

namespace XPathData

/-- The double of an exact number is that of the decimal number it is. -/
theorem Number.toDouble_exact {x : Number} {d : Decimal} (h : x.exactDecimal? = some d) :
    x.toDouble = d.toDouble := by
  cases x with
  | int n =>
    cases h
    have hone : (Decimal.ofSigned64 n).coefficient =
        n.val * (Nat.pow 10 (Decimal.ofSigned64 n).scale : Nat) := (Int.mul_one n.val).symm
    exact (Decimal.toDouble_of_whole hone).symm
  | dec e =>
    cases h
    rfl
  | single x => cases h
  | double x => cases h

namespace EqualityKey

open Atomic

variable {a b : Atomic} {ctx : ValueContext} {d e : Decimal}

/-! ### The exceptions -/

/-- The cases in which equal values have two keys. -/
inductive TwoKeys : Atomic → Atomic → Prop where
  /-- A duration that lasts no time, and a year-month duration of no months. -/
  | noTime {m n : Signed32} {s : Decimal} (hm : m.val = 0) (hs : s.isZero = true)
      (hn : n.val = 0) : TwoKeys (.duration m s) (.yearMonthDuration n)
  /-- The same in the other order. -/
  | noMonths {m n : Signed32} {s : Decimal} (hm : m.val = 0) (hs : s.isZero = true)
      (hn : n.val = 0) : TwoKeys (.yearMonthDuration n) (.duration m s)
  /-- Two fragments of one kind with years beyond the calendar, and with different texts. -/
  | beyond {f g : Fragment} {fZone gZone : Option Offset} (hkind : f.kind = g.kind)
      (hf : f.Beyond) (hg : g.Beyond)
      (htext : (Atomic.fragment f fZone).text ≠ (Atomic.fragment g gZone).text) :
      TwoKeys (.fragment f fZone) (.fragment g gZone)
  /-- Two decimal numbers with one value, different scales and different doubles, one of which
      turns back into the number. -/
  | decimals {d e : Decimal} (hvalue : d.same e = true) (hscale : d.scale ≠ e.scale)
      (hdouble : d.toDouble ≠ e.toDouble)
      (hback : TurnsBack d.toDouble d ∨ TurnsBack e.toDouble e) :
      TwoKeys (.decimal d) (.decimal e)

theorem TwoKeys.symm (h : TwoKeys a b) : TwoKeys b a := by
  cases h with
  | noTime hm hs hn => exact .noMonths hm hs hn
  | noMonths hm hs hn => exact .noTime hm hs hn
  | beyond hkind hf hg htext => exact .beyond hkind.symm hg hf htext.symm
  | decimals hvalue hscale hdouble hback =>
    rw [Decimal.same_iff] at hvalue
    exact .decimals (Decimal.same_iff.2 hvalue.symm) hscale.symm hdouble.symm hback.symm

/-! ### Decimal numbers -/

theorem turnsBack_congr {x : Double} (h : d.value = e.value) (hd : TurnsBack x d) :
    TurnsBack x e := by
  obtain ⟨c, hc, hsame⟩ := hd
  refine ⟨c, hc, ?_⟩
  rw [Decimal.same_iff] at hsame ⊢
  rw [hsame, h]

/-- A double that turns back into a number other than zero is the key of that number itself. -/
theorem ofDouble_of_turnsBack {x : Double} (hback : TurnsBack x d) (hd : d.value ≠ 0) :
    ofDouble x = .number x := by
  obtain ⟨c, hc, hsame⟩ := hback
  unfold ofDouble
  rw [if_neg]
  intro hzero
  rw [toDecimal?_of_isZero hzero] at hc
  cases hc
  rw [Decimal.same_iff, Decimal.value_zero] at hsame
  exact hd hsame.symm

/-- Two ways to write a number have one key exactly if their doubles are the same or neither of
    them turns back. -/
theorem ofDecimal_eq_iff (h : d.value = e.value) :
    ofDecimal d.toDouble d = ofDecimal e.toDouble e ↔
      d.toDouble = e.toDouble ∨ ¬(TurnsBack d.toDouble d ∨ TurnsBack e.toDouble e) := by
  have hneither (hd : ¬ TurnsBack d.toDouble d) (he : ¬ TurnsBack e.toDouble e) :
      ofDecimal d.toDouble d = ofDecimal e.toDouble e := by
    rw [ofDecimal_of_not_turnsBack hd, ofDecimal_of_not_turnsBack he,
      Decimal.normalize_eq_iff.2 h]
  constructor
  · intro hkey
    by_cases hsame : d.toDouble = e.toDouble
    · exact .inl hsame
    · right
      -- Zero has one double only.
      have hzero : d.value ≠ 0 := by
        intro hd
        have hzero : d.value = ((0 : Int) : ℚ) := by rw [hd, Int.cast_zero]
        exact hsame (Decimal.toDouble_eq_of_whole hzero (h ▸ hzero))
      by_cases hd : TurnsBack d.toDouble d
      · rw [ofDecimal_of_turnsBack hd, ofDouble_of_turnsBack hd hzero] at hkey
        by_cases he : TurnsBack e.toDouble e
        · rw [ofDecimal_of_turnsBack he, ofDouble_of_turnsBack he (h ▸ hzero)] at hkey
          exact absurd (EqualityKey.number.inj hkey) hsame
        · rw [ofDecimal_of_not_turnsBack he] at hkey
          cases hkey
      · by_cases he : TurnsBack e.toDouble e
        · rw [ofDecimal_of_not_turnsBack hd, ofDecimal_of_turnsBack he,
            ofDouble_of_turnsBack he (h ▸ hzero)] at hkey
          cases hkey
        · exact not_or.2 ⟨hd, he⟩
  · rintro (hsame | hback)
    · by_cases hd : TurnsBack d.toDouble d
      · have he : TurnsBack e.toDouble e := hsame ▸ turnsBack_congr h hd
        rw [ofDecimal_of_turnsBack hd, ofDecimal_of_turnsBack he, hsame]
      · have he : ¬ TurnsBack e.toDouble e := fun he => hd (hsame ▸ turnsBack_congr h.symm he)
        exact hneither hd he
    · obtain ⟨hd, he⟩ := not_or.1 hback
      exact hneither hd he

/-- Both values have keys, and they have one key exactly outside the three cases. -/
def KeysAgree (ctx : ValueContext) (a b : Atomic) : Prop :=
  ∃ k l, of a ctx = .ok k ∧ of b ctx = .ok l ∧ (k = l ↔ ¬ TwoKeys a b)

theorem KeysAgree.of_same {k : EqualityKey} (ha : of a ctx = .ok k) (hb : of b ctx = .ok k)
    (h : ¬ TwoKeys a b) : KeysAgree ctx a b :=
  ⟨k, k, ha, hb, ⟨fun _ => h, fun _ => rfl⟩⟩

theorem KeysAgree.symm (h : KeysAgree ctx a b) : KeysAgree ctx b a := by
  obtain ⟨k, l, hk, hl, hiff⟩ := h
  refine ⟨l, k, hl, hk, ?_⟩
  rw [eq_comm, hiff]
  exact not_congr ⟨TwoKeys.symm, TwoKeys.symm⟩

/-! ### Numbers -/

/-- An exact number is a decimal, or whole. -/
theorem decimal_or_whole {x : Number} (hx : Number.ofAtomic? a = some x)
    (hd : x.exactDecimal? = some d) : a = .decimal d ∨ ∃ w : Int, d.value = w := by
  cases a with
  | decimal c =>
    cases hx
    cases hd
    exact .inl rfl
  | integer k n =>
    right
    simp only [Number.ofAtomic?] at hx
    split at hx
    · cases hx
      cases hd
      exact ⟨_, Decimal.value_ofSigned64 _⟩
    · cases hx
      cases hd
      exact ⟨_, Decimal.value_ofWord n k.bounds⟩
  | float x =>
    cases hx
    cases hd
  | double x =>
    cases hx
    cases hd
  | _ => cases hx

theorem keysAgree_numbers {x y : Number} (hx : Number.ofAtomic? a = some x)
    (hy : Number.ofAtomic? b = some y) (hd : x.exactDecimal? = some d)
    (he : y.exactDecimal? = some e) (h : Equal ctx a b) : KeysAgree ctx a b := by
  have hvalue : d.value = e.value := by
    rw [equal_numbers_iff hx hy, Number.compare?_exact hd he, Option.some.injEq,
      Decimal.compare_eq_eq_iff] at h
    exact h
  refine ⟨_, _, of_number hx, of_number hy, ?_⟩
  rw [ofNumber_exact hd, ofNumber_exact he, Number.toDouble_exact hd, Number.toDouble_exact he,
    ofDecimal_eq_iff hvalue]
  constructor
  · intro hkey htwo
    cases htwo with
    | decimals _ _ hdouble hback =>
      cases hx
      cases hy
      cases hd
      cases he
      exact hkey.elim hdouble fun hnone => hnone hback
    | noTime | noMonths | beyond => cases hx
  · intro hone
    by_cases hdouble : d.toDouble = e.toDouble
    · exact .inl hdouble
    · right
      intro hback
      have hfraction : ¬ ∃ w : Int, d.value = w :=
        fun ⟨w, hw⟩ => hdouble (Decimal.toDouble_eq_of_whole hw (hvalue ▸ hw))
      have ha := (decimal_or_whole hx hd).resolve_right hfraction
      have hb := (decimal_or_whole hy he).resolve_right (hvalue ▸ hfraction)
      have hscale : d.scale ≠ e.scale :=
        fun hscale => hdouble (congrArg _ (Decimal.eq_of_scale_eq hvalue hscale))
      rw [ha, hb] at hone
      exact hone (.decimals (Decimal.same_iff.2 hvalue) hscale hdouble hback)

/-! ### Durations -/

/-- A duration of the general kind that is equal to one of months alone. -/
theorem keysAgree_months {m n : Signed32} {s : Decimal} (hm : m.val = n.val)
    (hs : s.normalize = .zero) : KeysAgree ctx (.duration m s) (.yearMonthDuration n) := by
  have hzero : s.isZero = true := by
    rw [Decimal.isZero_iff, ← Decimal.value_normalize, hs, Decimal.value_zero]
  refine ⟨_, _, rfl, rfl, ?_⟩
  show EqualityKey.duration (durationFamily _ m.val s.normalize) m.val s.normalize =
    EqualityKey.duration .yearMonthDuration n.val .zero ↔ _
  rw [hs, hm]
  by_cases hn : n.val = 0
  · -- The first key is that of a span of time, the second one of months.
    have hfamily : durationFamily (.duration m s) n.val .zero = .dayTimeDuration := if_pos hn
    rw [hfamily]
    exact iff_of_false nofun fun hone => hone (.noTime (hm.trans hn) hzero hn)
  · have hfamily : durationFamily (.duration m s) n.val .zero = .yearMonthDuration := by
      unfold durationFamily
      dsimp only
      rw [if_neg hn, if_pos (Decimal.isZero_iff.2 Decimal.value_zero)]
    rw [hfamily]
    refine iff_of_true rfl fun htwo => ?_
    cases htwo with
    | noTime _ _ hzero => exact hn hzero

theorem keysAgree_durations {p q : Int × Decimal} (hp : a.durationParts? = some p)
    (hq : b.durationParts? = some q) (h : Equal ctx a b) : KeysAgree ctx a b := by
  obtain ⟨rfl, hleft, hright⟩ := (equal_durations_iff hp hq).1 h
  have hsame (hfamily : durationFamily a p.1 p.2 = durationFamily b p.1 p.2)
      (hone : ¬ TwoKeys a b) : KeysAgree ctx a b :=
    .of_same (of_parts hp) (hfamily ▸ of_parts hq) hone
  cases a with
  | duration m s =>
    cases b with
    | duration n t => exact hsame rfl nofun
    | yearMonthDuration n =>
      cases hq
      obtain ⟨hm, hs⟩ := Prod.mk.inj (Option.some.inj hp)
      exact keysAgree_months hm hs
    | dayTimeDuration t =>
      cases hq
      exact hsame rfl nofun
    | _ => cases hq
  | yearMonthDuration n =>
    cases b with
    | duration m s =>
      cases hp
      obtain ⟨hm, hs⟩ := Prod.mk.inj (Option.some.inj hq)
      exact (keysAgree_months hm hs).symm
    | yearMonthDuration m => exact hsame rfl nofun
    | dayTimeDuration t => exact absurd ⟨rfl, rfl⟩ hleft
    | _ => cases hq
  | dayTimeDuration s =>
    cases b with
    | duration m t =>
      cases hp
      exact hsame rfl nofun
    | yearMonthDuration m => exact absurd ⟨rfl, rfl⟩ hright
    | dayTimeDuration t => exact hsame rfl nofun
    | _ => cases hq
  | _ => cases hp

/-! ### Dates, times and fragments -/

theorem keysAgree_times {s t : DateTime × Option Offset} (hs : a.localTime? = some s)
    (ht : b.localTime? = some t) (htype : a.type = b.type) (hkind : ∀ k, a.type ≠ .fragment k)
    (h : Equal ctx a b) : KeysAgree ctx a b := by
  obtain ⟨u, v, hu, hv, hnanos⟩ := (equal_times_iff hs ht htype hkind).1 h
  have huv : u = v := DateTime.nanos_inj hnanos
  have ha : of a ctx = .ok (.instant a.type u) := by
    rw [of_localTime hs, hu]
    rfl
  have hb : of b ctx = .ok (.instant a.type u) := by
    rw [of_localTime ht, hv, huv, htype]
    rfl
  refine .of_same ha hb fun htwo => ?_
  cases htwo with
  | beyond => exact hkind _ rfl
  | noTime | noMonths | decimals => cases hs

theorem start?_of_fragmentInstant {f : Fragment} {zone : Option Offset}
    (h : fragmentInstant f zone ctx = .ok none) : f.start? = none := by
  cases hstart : f.start? with
  | none => rfl
  | some t =>
    rw [fragmentInstant_of_start hstart] at h
    obtain ⟨u, -, hu⟩ := Outcome.of_map_ok h
    cases hu

theorem keysAgree_fragments {f g : Fragment} {fZone gZone : Option Offset}
    (hkind : f.kind = g.kind) (hf : f.Proper) (hg : g.Proper)
    (h : Equal ctx (.fragment f fZone) (.fragment g gZone)) :
    KeysAgree ctx (.fragment f fZone) (.fragment g gZone) := by
  obtain ⟨x, hx, hy⟩ := (equal_fragments_iff hkind).1 h
  have ha : of (.fragment f fZone) ctx = _ := of_fragment f fZone
  have hb : of (.fragment g gZone) ctx = _ := of_fragment g gZone
  rw [hx] at ha
  rw [hy] at hb
  cases x with
  | some t =>
    rw [← hkind] at hb
    refine .of_same ha hb fun htwo => ?_
    cases htwo with
    | beyond _ hbeyond =>
      rw [fragmentInstant_of_none hbeyond.start?_eq_none] at hx
      cases hx
  | none =>
    have hf := hf.beyond (start?_of_fragmentInstant hx)
    have hg := hg.beyond (start?_of_fragmentInstant hy)
    refine ⟨_, _, ha, hb, ?_⟩
    show EqualityKey.lexical _ _ = EqualityKey.lexical _ _ ↔ _
    rw [hkind, EqualityKey.lexical.injEq]
    constructor
    · rintro ⟨-, htext⟩ htwo
      cases htwo with
      | beyond _ _ _ hne => exact hne htext
    · intro hone
      by_cases htext : (Atomic.fragment f fZone).text = (Atomic.fragment g gZone).text
      · exact ⟨rfl, htext⟩
      · exact absurd (.beyond hkind hf hg htext) hone

/-! ### All values -/

/-- Equal values from texts have one key exactly outside the three cases. -/
theorem keysAgree_of_equal (ha : a.FromText) (hb : b.FromText) (hae : a.isExact = true)
    (hbe : b.isExact = true) (h : Equal ctx a b) : KeysAgree ctx a b := by
  cases pairing_of_ground h.ground with
  | numbers hx hy =>
    obtain ⟨d, hd⟩ := exists_exact hx hae
    obtain ⟨e, he⟩ := exists_exact hy hbe
    exact keysAgree_numbers hx hy hd he h
  | texts hs ht =>
    obtain rfl := (equal_texts_iff hs ht).1 h
    refine .of_same (of_text hs) (of_text ht) fun htwo => ?_
    cases htwo <;> cases hs
  | durations hp hq => exact keysAgree_durations hp hq h
  | times hs ht htype hkind => exact keysAgree_times hs ht htype hkind h
  | fragments f g fZone gZone hkind => exact keysAgree_fragments hkind ha.formed hb.formed h
  | booleans x y =>
    obtain rfl := equal_booleans_iff.1 h
    exact .of_same rfl rfl nofun
  | qNames p q =>
    obtain ⟨huri, hlocal⟩ := equal_qNames_iff.1 h
    have hkey : of (.qName p) ctx = of (.qName q) ctx :=
      congrArg₂ (fun u l => Except.ok (EqualityKey.qName u l)) huri hlocal
    exact .of_same hkey rfl nofun
  | notations s t =>
    obtain rfl := equal_notations_iff.1 h
    exact .of_same rfl rfl nofun
  | hexBinaries s t =>
    have hbytes := equal_hexBinaries_iff.1 h
    obtain ⟨bytes, hs⟩ := ha.formed
    have hkey (u : String) (hu : Text.Hex.decode? u.toList = some bytes) :
        of (.hexBinary u) ctx = .ok (.binary .hexBinary bytes) := by
      rw [of_hexBinary, hu]
    exact .of_same (hkey s hs) (hkey t (hbytes ▸ hs)) nofun
  | base64Binaries s t =>
    obtain rfl := equal_base64Binaries_iff.1 h
    exact .of_same rfl rfl nofun

end EqualityKey

end XPathData
