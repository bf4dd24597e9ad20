import XPathData.Atomic.Key
import XPathData.Proofs.Atomic.Relation

/-! # Equality keys and equality

  The key of a value is found by cases on the value alone, while the comparison of two values
  asks one question after the other about both. Two values with one key always stand on one
  ground, and there the key says enough for the comparison to find them equal.

  * `EqualityKey.exists_of` — a value whose time stays in the calendar has a key
  * `EqualityKey.ground_of` — the key shows the ground of its value
  * `EqualityKey.equal_of_same_key` — exact values with one key are equal
-/

namespace XPathData

/-! ### Exact numbers -/

namespace Number

/-- The decimal number that an integer or a decimal is. -/
def exactDecimal? : Number → Option Decimal
  | int n => some (.ofSigned64 n)
  | dec d => some d
  | single _ | double _ => none

/-- Exact numbers are compared by value. -/
theorem compare?_exact {x y : Number} {d e : Decimal} (hx : x.exactDecimal? = some d)
    (hy : y.exactDecimal? = some e) : x.compare? y = some (d.compare e) := by
  cases x <;> cases hx <;> cases y <;> cases hy
  case int.refl.int.refl m n =>
    have hvalue : compare m.val n.val = compare (m.val : ℚ) (n.val : ℚ) := by
      rcases Int.lt_trichotomy m.val n.val with h | h | h
      · rw [compare_lt_iff_lt.2 h, eq_comm, compare_lt_iff_lt]
        exact_mod_cast h
      · rw [h, compare_eq_iff_eq.2 rfl, compare_eq_iff_eq.2 rfl]
      · rw [compare_gt_iff_gt.2 h, eq_comm, compare_gt_iff_gt]
        exact_mod_cast h
    rw [Decimal.compare_eq_value, Decimal.value_ofSigned64, Decimal.value_ofSigned64, ← hvalue]
    rfl
  all_goals rfl

end Number

namespace Atomic

/-- The value is not of one of the two floating-point types. -/
def isExact (a : Atomic) : Bool := a.type != .float && a.type != .double

/-- The time of the value, if it has one, goes to UTC without leaving the calendar. -/
def staysInCalendar (ctx : ValueContext) (a : Atomic) : Bool :=
  match a.localTime? with
  | some (t, zone) => (t.toUtc? (ctx.zoneOf zone)).isSome
  | none => true

variable {a b : Atomic} {ctx : ValueContext}

theorem exists_exact {x : Number} (hx : Number.ofAtomic? a = some x) (h : a.isExact = true) :
    ∃ d, x.exactDecimal? = some d := by
  cases a with
  | integer k n =>
    simp only [Number.ofAtomic?] at hx
    split at hx
    all_goals
      cases hx
      exact ⟨_, rfl⟩
  | decimal d =>
    cases hx
    exact ⟨d, rfl⟩
  | float x => cases h
  | double x => cases h
  | _ => cases hx

theorem exists_toUtc {t : DateTime × Option Offset} (ht : a.localTime? = some t)
    (h : a.staysInCalendar ctx = true) : ∃ u, toUtc t.1 t.2 ctx = .ok u := by
  unfold staysInCalendar at h
  simp only [ht] at h
  obtain ⟨u, hu⟩ := Option.isSome_iff_exists.1 h
  refine ⟨u, ?_⟩
  unfold toUtc
  rw [hu]

theorem localTime?_of_start {f : Fragment} {t : DateTime} (h : f.start? = some t)
    (zone : Option Offset) : (fragment f zone).localTime? = some (t, zone) := by
  rw [localTime?, h]
  rfl

/-- A fragment without a start in the calendar has no local time. -/
theorem localTime?_of_none {f : Fragment} (h : f.start? = none) (zone : Option Offset) :
    (fragment f zone).localTime? = none := by
  rw [localTime?, h]
  rfl

theorem fragmentInstant_of_start {f : Fragment} {t : DateTime} (h : f.start? = some t)
    (zone : Option Offset) : fragmentInstant f zone ctx = (toUtc t zone ctx).map some := by
  unfold fragmentInstant
  rw [h]

theorem fragmentInstant_of_none {f : Fragment} (h : f.start? = none) (zone : Option Offset) :
    fragmentInstant f zone ctx = .ok none := by
  unfold fragmentInstant
  rw [h]

end Atomic

/-- What a function of a result comes from. -/
theorem Outcome.of_map_ok {α β : Type} {r : Outcome α} {f : α → β} {y : β}
    (h : r.map f = .ok y) : ∃ x, r = .ok x ∧ f x = y := by
  cases r with
  | ok x => exact ⟨x, rfl, Except.ok.inj h⟩
  | error e => cases h

namespace EqualityKey

open Atomic

variable {a b : Atomic} {ctx : ValueContext} {k : EqualityKey}

/-! ### The key of each kind of value -/

theorem of_number {x : Number} (h : Number.ofAtomic? a = some x) :
    of a ctx = .ok (ofNumber x) := by
  cases a with
  | integer | decimal | float | double =>
    unfold of
    simp only [h]
  | _ => cases h

theorem of_text {s : String} (h : a.text? = some s) : of a ctx = .ok (.string s) := by
  cases a <;> cases h <;> rfl

theorem of_parts {p : Int × Decimal} (h : a.durationParts? = some p) :
    of a ctx = .ok (.duration (durationFamily a p.1 p.2) p.1 p.2) := by
  cases a <;> cases h <;> rfl

theorem of_fragment (f : Fragment) (zone : Option Offset) :
    of (.fragment f zone) ctx = (fragmentInstant f zone ctx).map fun x =>
      match x with
      | some t => .instant (.fragment f.kind) t
      | none => .lexical (.fragment f.kind) (Atomic.fragment f zone).text := by
  show (do match ← fragmentInstant f zone ctx with
    | some t => return instant (.fragment f.kind) t
    | none => return lexical (.fragment f.kind) (Atomic.fragment f zone).text) = _
  cases fragmentInstant f zone ctx with
  | ok x => cases x <;> rfl
  | error e => rfl

theorem of_hexBinary (s : String) :
    of (.hexBinary s) ctx = .ok (match Text.Hex.decode? s.toList with
      | some bytes => .binary .hexBinary bytes
      | none => .lexical .hexBinary s) := by
  show (match Text.Hex.decode? s.toList with
    | some bytes => Except.ok (binary .hexBinary bytes)
    | none => .ok (lexical .hexBinary s)) = _
  split <;> rfl

theorem of_localTime {t : DateTime × Option Offset} (h : a.localTime? = some t) :
    of a ctx = (toUtc t.1 t.2 ctx).map (instant a.type) := by
  cases a with
  | dateTime | date | time =>
    cases h
    rfl
  | fragment f zone =>
    obtain ⟨s, hs, rfl⟩ := Option.map_eq_some_iff.1 h
    rw [of_fragment, fragmentInstant_of_start hs]
    cases toUtc s zone ctx with
    | ok u => rfl
    | error e => rfl
  | _ => cases h

/-- A fragment without a start in the calendar has its text for a key. -/
theorem of_fragment_beyond {f : Fragment} (h : f.start? = none) (zone : Option Offset) :
    of (.fragment f zone) ctx = .ok (.lexical (.fragment f.kind) (Atomic.fragment f zone).text) := by
  rw [of_fragment, fragmentInstant_of_none h]
  rfl

/-- A value whose time stays in the calendar has a key. -/
theorem exists_of (h : a.staysInCalendar ctx = true) : ∃ k, of a ctx = .ok k := by
  -- Only a time can fail to give a key.
  cases ht : a.localTime? with
  | some t =>
    obtain ⟨u, hu⟩ := exists_toUtc ht h
    exact ⟨_, by rw [of_localTime ht, hu]; rfl⟩
  | none =>
    cases a with
    | dateTime | date | time => cases ht
    | fragment f zone => exact ⟨_, of_fragment_beyond (Option.map_eq_none_iff.1 ht) zone⟩
    | integer k n =>
      obtain ⟨x, hx⟩ := exists_number_of_ground (a := .integer k n) rfl
      exact ⟨_, of_number hx⟩
    | hexBinary s => exact ⟨_, of_hexBinary s⟩
    | _ => exact ⟨_, rfl⟩

/-! ### The ground that a key shows -/

/-- What a value with the key is compared as. -/
def ground : EqualityKey → AtomicType
  | nan | number _ | decimal _ => .decimal
  | boolean _ => .boolean
  | string _ => .string .string
  | qName .. => .qName
  | notationName _ => .notationName
  | instant t _ | binary t _ | lexical t _ => t.ground
  | duration .. => .duration

theorem ground_ofDouble (x : Double) : (ofDouble x).ground = .decimal := by
  unfold ofDouble
  split <;> rfl

theorem ground_ofDecimal (x : Double) (d : Decimal) : (ofDecimal x d).ground = .decimal := by
  unfold ofDecimal
  split
  · split
    · exact ground_ofDouble x
    · rfl
  · rfl

theorem ground_ofNumber (x : Number) : (ofNumber x).ground = .decimal := by
  unfold ofNumber
  split
  · rfl
  · cases x with
    | int n => exact ground_ofDecimal _ _
    | dec d => exact ground_ofDecimal _ _
    | single x => exact ground_ofDouble _
    | double x => exact ground_ofDouble _

/-- The key of a value shows its ground. -/
theorem ground_of (h : of a ctx = .ok k) : k.ground = a.type.ground := by
  cases ht : a.localTime? with
  | some t =>
    rw [of_localTime ht] at h
    cases hu : toUtc t.1 t.2 ctx with
    | error e =>
      rw [hu] at h
      cases h
    | ok u =>
      rw [hu] at h
      cases h
      rfl
  | none =>
    cases a with
    | dateTime | date | time => cases ht
    | fragment f zone =>
      rw [of_fragment_beyond (Option.map_eq_none_iff.1 ht)] at h
      cases h
      rfl
    | integer kind n =>
      obtain ⟨x, hx⟩ := exists_number_of_ground (a := .integer kind n) rfl
      rw [of_number hx] at h
      cases h
      exact ground_ofNumber x
    | decimal | float | double =>
      cases h
      exact ground_ofNumber _
    | hexBinary s =>
      rw [of_hexBinary] at h
      cases h
      split <;> rfl
    | _ =>
      cases h
      rfl

/-! ### Numbers -/

/-- The double nearest to a decimal number turns back into it. -/
def TurnsBack (x : Double) (d : Decimal) : Prop := ∃ e, x.toDecimal? = some e ∧ e.same d = true

theorem ofDecimal_of_turnsBack {x : Double} {d : Decimal} (h : TurnsBack x d) :
    ofDecimal x d = ofDouble x := by
  obtain ⟨e, he, hsame⟩ := h
  unfold ofDecimal
  simp only [he, hsame, if_true]

theorem ofDecimal_of_not_turnsBack {x : Double} {d : Decimal} (h : ¬ TurnsBack x d) :
    ofDecimal x d = .decimal d.normalize := by
  unfold ofDecimal
  split
  case h_1 e he =>
    rw [if_neg]
    intro hsame
    exact h ⟨e, he, hsame⟩
  case h_2 => rfl

theorem toDecimal?_of_isZero {x : Double} (h : x.isZero = true) :
    x.toDecimal? = some .zero := by
  cases x with
  | finite s m e =>
    have hm : m = 0 := by simpa [Binary.isZero] using h
    simp only [Binary.toDecimal?, hm, if_true]
  | _ => cases h

/-- Doubles with one key turn into the same decimal number: they are the same, or both zero. -/
theorem toDecimal?_eq_of_ofDouble {x y : Double} (h : ofDouble x = ofDouble y) :
    x.toDecimal? = y.toDecimal? := by
  unfold ofDouble at h
  have hzero : (Binary.zero : Double).isZero = true := rfl
  split at h
  case isTrue hx =>
    split at h
    case isTrue hy => rw [toDecimal?_of_isZero hx, toDecimal?_of_isZero hy]
    case isFalse hy =>
      injection h with h
      exact absurd (h ▸ hzero) hy
  case isFalse hx =>
    split at h
    case isTrue hy =>
      injection h with h
      exact absurd (h ▸ hzero) hx
    case isFalse => rw [EqualityKey.number.inj h]

theorem ofDouble_ne_decimal (x : Double) (d : Decimal) : ofDouble x ≠ .decimal d := by
  unfold ofDouble
  split <;> exact EqualityKey.noConfusion

/-- Decimal numbers with one key have the same value. -/
theorem value_eq_of_ofDecimal {x y : Double} {d e : Decimal}
    (h : ofDecimal x d = ofDecimal y e) : d.value = e.value := by
  by_cases hx : TurnsBack x d
  · rw [ofDecimal_of_turnsBack hx] at h
    by_cases hy : TurnsBack y e
    · -- Both numbers are what the one double turns into.
      rw [ofDecimal_of_turnsBack hy] at h
      obtain ⟨d', hd', hd⟩ := hx
      obtain ⟨e', he', he⟩ := hy
      have hsame : d' = e' := by
        rw [toDecimal?_eq_of_ofDouble h, he'] at hd'
        exact (Option.some.inj hd').symm
      rw [← Decimal.same_iff.1 hd, hsame, Decimal.same_iff.1 he]
    · rw [ofDecimal_of_not_turnsBack hy] at h
      exact absurd h (ofDouble_ne_decimal x _)
  · rw [ofDecimal_of_not_turnsBack hx] at h
    by_cases hy : TurnsBack y e
    · rw [ofDecimal_of_turnsBack hy] at h
      exact absurd h.symm (ofDouble_ne_decimal y _)
    · rw [ofDecimal_of_not_turnsBack hy] at h
      exact Decimal.normalize_eq_iff.1 (EqualityKey.decimal.inj h)

theorem ofNumber_exact {x : Number} {d : Decimal} (h : x.exactDecimal? = some d) :
    ofNumber x = ofDecimal x.toDouble d := by
  cases x <;> cases h <;> rfl

/-! ### One key, one value -/

/-- Values with one key are equal, where both are exact. -/
theorem equal_of_same_key (ha : a.isExact = true) (hb : b.isExact = true)
    (hka : of a ctx = .ok k) (hkb : of b ctx = .ok k) : Equal ctx a b := by
  have hground : a.type.ground = b.type.ground := by rw [← ground_of hka, ground_of hkb]
  have hpair := pairing_of_ground hground
  have hkey : of a ctx = of b ctx := by rw [hka, hkb]
  cases hpair with
  | numbers hx hy =>
    obtain ⟨d, hd⟩ := exists_exact hx ha
    obtain ⟨e, he⟩ := exists_exact hy hb
    rw [of_number hx, of_number hy, ofNumber_exact hd, ofNumber_exact he] at hkey
    rw [equal_numbers_iff hx hy, Number.compare?_exact hd he, Option.some.injEq,
      Decimal.compare_eq_eq_iff]
    exact value_eq_of_ofDecimal (Except.ok.inj hkey)
  | texts hs ht =>
    rw [of_text hs, of_text ht] at hkey
    rw [equal_texts_iff hs ht]
    exact EqualityKey.string.inj (Except.ok.inj hkey)
  | durations hp hq =>
    rw [of_parts hp, of_parts hq] at hkey
    obtain ⟨hfamily, hmonths, hseconds⟩ := EqualityKey.duration.inj (Except.ok.inj hkey)
    rw [equal_durations_iff hp hq]
    refine ⟨Prod.ext hmonths hseconds, ?_, ?_⟩
    -- The families of months alone and of seconds alone differ.
    · rintro ⟨hta, htb⟩
      cases a <;> cases hta
      cases b <;> cases htb
      cases hfamily
    · rintro ⟨hta, htb⟩
      cases a <;> cases hta
      cases b <;> cases htb
      cases hfamily
  | times hs ht htype hkind =>
    rw [equal_times_iff hs ht htype hkind]
    rw [of_localTime hs] at hka
    rw [of_localTime ht] at hkb
    obtain ⟨u, hu, rfl⟩ := Outcome.of_map_ok hka
    obtain ⟨v, hv, hkey⟩ := Outcome.of_map_ok hkb
    obtain ⟨-, huv⟩ := EqualityKey.instant.inj hkey
    exact ⟨u, v, hu, hv, by rw [huv]⟩
  | fragments f g fZone gZone hkind =>
    rw [equal_fragments_iff hkind]
    rw [of_fragment] at hka hkb
    obtain ⟨x, hx, rfl⟩ := Outcome.of_map_ok hka
    obtain ⟨y, hy, hkey⟩ := Outcome.of_map_ok hkb
    -- An instant is never the key of a fragment beyond the calendar.
    cases x with
    | some u =>
      cases y with
      | some v =>
        obtain ⟨-, huv⟩ := EqualityKey.instant.inj hkey
        exact ⟨some u, hx, huv ▸ hy⟩
      | none => exact EqualityKey.noConfusion hkey
    | none =>
      cases y with
      | some v => exact EqualityKey.noConfusion hkey
      | none => exact ⟨none, hx, hy⟩
  | booleans x y => exact equal_booleans_iff.2 (EqualityKey.boolean.inj (Except.ok.inj hkey))
  | qNames p q =>
    obtain ⟨huri, hlocal⟩ := EqualityKey.qName.inj (Except.ok.inj hkey)
    exact equal_qNames_iff.2 ⟨huri, hlocal⟩
  | notations s t =>
    exact equal_notations_iff.2 (EqualityKey.notationName.inj (Except.ok.inj hkey))
  | hexBinaries s t =>
    rw [equal_hexBinaries_iff]
    rw [of_hexBinary, of_hexBinary] at hkey
    have hbytes := Except.ok.inj hkey
    cases hs : Text.Hex.decode? s.toList with
    | some bytes =>
      cases ht : Text.Hex.decode? t.toList with
      | some bytes' =>
        simp only [hs, ht] at hbytes
        rw [(EqualityKey.binary.inj hbytes).2]
      | none =>
        simp only [hs, ht] at hbytes
        exact EqualityKey.noConfusion hbytes
    | none =>
      cases ht : Text.Hex.decode? t.toList with
      | some bytes' =>
        simp only [hs, ht] at hbytes
        exact EqualityKey.noConfusion hbytes
      | none => rfl
  | base64Binaries s t =>
    exact equal_base64Binaries_iff.2 (EqualityKey.lexical.inj (Except.ok.inj hkey)).2

end EqualityKey

end XPathData
