import XPathData.Atomic.Comparison
import XPathData.Proofs.Decimal.Value

/-! # How two values relate

  Two values compare only on a common ground: as numbers, as texts, as durations, or within one
  type. `Pairing` lists the ways in which two values can stand on one ground, and for each of
  them an equation says how they relate.

  * `AtomicType.ground` — what values of a type are compared as
  * `Atomic.pairing_of_ground` — two values on one ground pair in one of ten ways
  * `Atomic.ground_of_relate?` — only values on one ground relate
-/

namespace XPathData

/-! ### Grounds -/

/-- What the values of a type are compared as. -/
def AtomicType.ground : AtomicType → AtomicType
  | untypedAtomic | string _ | anyURI => string .string
  | decimal | integer _ | float | double => decimal
  | duration | yearMonthDuration | dayTimeDuration => duration
  | t => t

namespace Atomic

variable {a b : Atomic} {ctx : ValueContext} {op : ComparisonOp}

/-- The local time that a date or time starts at, with its timezone. -/
def localTime? : Atomic → Option (DateTime × Option Offset)
  | dateTime t zone => some (t, zone)
  | date d zone => some (.startOf d, zone)
  | time c zone => some (.anchored c, zone)
  | fragment f zone => f.start?.map (·, zone)
  | _ => none

/-- The ways in which two values can be compared. -/
inductive Pairing : Atomic → Atomic → Prop where
  | numbers {a b : Atomic} {x y : Number} (ha : Number.ofAtomic? a = some x)
      (hb : Number.ofAtomic? b = some y) : Pairing a b
  | texts {a b : Atomic} {s t : String} (ha : a.text? = some s) (hb : b.text? = some t) :
      Pairing a b
  | durations {a b : Atomic} {p q : Int × Decimal} (ha : a.durationParts? = some p)
      (hb : b.durationParts? = some q) : Pairing a b
  | times {a b : Atomic} {s t : DateTime × Option Offset} (ha : a.localTime? = some s)
      (hb : b.localTime? = some t) (htype : a.type = b.type)
      (hkind : ∀ k, a.type ≠ .fragment k) : Pairing a b
  | fragments (f g : Fragment) (fZone gZone : Option Offset) (h : f.kind = g.kind) :
      Pairing (.fragment f fZone) (.fragment g gZone)
  | booleans (x y : Bool) : Pairing (.boolean x) (.boolean y)
  | qNames (p q : QName) : Pairing (.qName p) (.qName q)
  | notations (s t : String) : Pairing (.notationName s) (.notationName t)
  | hexBinaries (s t : String) : Pairing (.hexBinary s) (.hexBinary t)
  | base64Binaries (s t : String) : Pairing (.base64Binary s) (.base64Binary t)

/-! ### Values on a ground -/

theorem exists_number_of_ground (h : a.type.ground = .decimal) :
    ∃ x, Number.ofAtomic? a = some x := by
  cases a with
  | integer k n =>
    simp only [Number.ofAtomic?]
    split
    · exact ⟨_, rfl⟩
    · exact ⟨_, rfl⟩
  | decimal d => exact ⟨_, rfl⟩
  | float x => exact ⟨_, rfl⟩
  | double x => exact ⟨_, rfl⟩
  | _ => cases h

theorem exists_text_of_ground (h : a.type.ground = .string .string) : ∃ s, a.text? = some s := by
  cases a with
  | untyped s => exact ⟨s, rfl⟩
  | string k s => exact ⟨s, rfl⟩
  | anyURI s => exact ⟨s, rfl⟩
  | _ => cases h

theorem exists_parts_of_ground (h : a.type.ground = .duration) :
    ∃ p, a.durationParts? = some p := by
  cases a with
  | duration m s => exact ⟨_, rfl⟩
  | yearMonthDuration m => exact ⟨_, rfl⟩
  | dayTimeDuration s => exact ⟨_, rfl⟩
  | _ => cases h

theorem ground_of_number {x : Number} (h : Number.ofAtomic? a = some x) :
    a.type.ground = .decimal := by
  cases a <;> first | rfl | cases h

theorem ground_of_text {s : String} (h : a.text? = some s) : a.type.ground = .string .string := by
  cases a <;> first | rfl | cases h

theorem ground_of_parts {p : Int × Decimal} (h : a.durationParts? = some p) :
    a.type.ground = .duration := by
  cases a <;> first | rfl | cases h

/-- Two values on one ground can be compared in one of the ways. -/
theorem pairing_of_ground (h : a.type.ground = b.type.ground) : Pairing a b := by
  cases a with
  | untyped s | string k s | anyURI s =>
    obtain ⟨t, ht⟩ := exists_text_of_ground h.symm
    exact .texts rfl ht
  | decimal d | float x | double x =>
    obtain ⟨y, hy⟩ := exists_number_of_ground h.symm
    exact .numbers rfl hy
  | integer k n =>
    obtain ⟨x, hx⟩ := exists_number_of_ground (a := integer k n) rfl
    obtain ⟨y, hy⟩ := exists_number_of_ground h.symm
    exact .numbers hx hy
  | duration m s | yearMonthDuration m | dayTimeDuration s =>
    obtain ⟨q, hq⟩ := exists_parts_of_ground h.symm
    exact .durations rfl hq
  | boolean x =>
    cases b <;> first | exact .booleans .. | cases h
  | dateTime t zone | date d zone | time c zone =>
    cases b <;> first | exact .times rfl rfl rfl nofun | cases h
  | fragment f zone =>
    cases b with
    | fragment g zone' => exact .fragments f g zone zone' (AtomicType.fragment.inj h)
    | _ => cases h
  | hexBinary s => cases b <;> first | exact .hexBinaries .. | cases h
  | base64Binary s => cases b <;> first | exact .base64Binaries .. | cases h
  | qName q => cases b <;> first | exact .qNames .. | cases h
  | notationName s => cases b <;> first | exact .notations .. | cases h

/-! ### Relations -/

theorem relate?_numbers {x y : Number} (ha : Number.ofAtomic? a = some x)
    (hb : Number.ofAtomic? b = some y) :
    relate? a b ctx = some (.ok (.ordered (x.compare? y))) := by
  simp [relate?, ha, hb]

theorem relate?_texts {s t : String} (ha : a.text? = some s) (hb : b.text? = some t) :
    relate? a b ctx = some (.ok (.ordered (some (compareText s t)))) := by
  have hnumber : Number.ofAtomic? a = none := by
    cases a <;> first | rfl | cases ha
  simp [relate?, ha, hb, hnumber]

/-- Values that are neither numbers nor texts relate by the remaining rules. -/
theorem relate?_eq_or (hnumber : Number.ofAtomic? a = none) (htext : a.text? = none) :
    relate? a b ctx =
      (relateTemporal? a b ctx).or (((relateDurations? a b).or (relateOthers? a b)).map .ok) := by
  simp [relate?, hnumber, htext]

theorem relate?_times {s t : DateTime × Option Offset} (ha : a.localTime? = some s)
    (hb : b.localTime? = some t) (htype : a.type = b.type) (hkind : ∀ k, a.type ≠ .fragment k) :
    relate? a b ctx = some (compareInstants s.1 t.1 s.2 t.2 ctx) := by
  cases a with
  | dateTime | date | time =>
    cases b <;> first | cases htype; done | (cases ha; cases hb; rfl)
  | fragment f zone => exact absurd rfl (hkind f.kind)
  | _ => cases ha

theorem relate?_fragments {f g : Fragment} {fZone gZone : Option Offset} (h : f.kind = g.kind) :
    relate? (fragment f fZone) (fragment g gZone) ctx = some do
      let x ← fragmentInstant f fZone ctx
      let y ← fragmentInstant g gZone ctx
      return .equality (x == y) := by
  rw [relate?_eq_or rfl rfl, relateTemporal?, if_pos h]
  rfl

theorem relate?_durations {p : Int × Decimal} (ha : a.durationParts? = some p) :
    relate? a b ctx = ((relateDurations? a b).or (relateOthers? a b)).map .ok := by
  cases a with
  | duration | yearMonthDuration | dayTimeDuration => exact relate?_eq_or rfl rfl
  | _ => cases ha

/-! ### Related values stand on one ground -/

theorem ground_of_relateTemporal? {r : Outcome Relation} (h : relateTemporal? a b ctx = some r) :
    a.type.ground = b.type.ground := by
  unfold relateTemporal? at h
  split at h
  case h_4 f _ g _ =>
    split at h
    case isTrue hkind => exact congrArg AtomicType.fragment hkind
    case isFalse => cases h
  case h_5 => cases h
  all_goals rfl

theorem ground_of_relateDurations? {r : Relation} (h : relateDurations? a b = some r) :
    a.type.ground = b.type.ground := by
  unfold relateDurations? at h
  split at h
  case h_3 | h_4 => cases h
  case h_5 =>
    split at h
    case h_1 ha hb => rw [ground_of_parts ha, ground_of_parts hb]
    case h_2 => cases h
  all_goals rfl

theorem ground_of_relateOthers? {r : Relation} (h : relateOthers? a b = some r) :
    a.type.ground = b.type.ground := by
  unfold relateOthers? at h
  split at h
  case h_6 => cases h
  all_goals rfl

/-- Only values on one ground relate. -/
theorem ground_of_relate? {r : Outcome Relation} (h : relate? a b ctx = some r) :
    a.type.ground = b.type.ground := by
  unfold relate? at h
  split at h
  case h_1 ha hb => rw [ground_of_number ha, ground_of_number hb]
  case h_2 =>
    split at h
    case h_1 ha hb => rw [ground_of_text ha, ground_of_text hb]
    case h_2 =>
      cases htime : relateTemporal? a b ctx with
      | some _ => exact ground_of_relateTemporal? htime
      | none =>
        cases hduration : relateDurations? a b with
        | some _ => exact ground_of_relateDurations? hduration
        | none =>
          rw [htime, hduration, Option.none_or, Option.none_or, Option.map_eq_some_iff] at h
          obtain ⟨r', hother, -⟩ := h
          exact ground_of_relateOthers? hother

/-! ### Comparison -/

/-- An untyped value relates to others as the string of its text does. -/
theorem relate?_untypedAsString (a b : Atomic) (ctx : ValueContext) :
    relate? (untypedAsString a) (untypedAsString b) ctx = relate? a b ctx := by
  have hleft (b : Atomic) : relate? (untypedAsString a) b ctx = relate? a b ctx := by
    cases a with
    | untyped s => cases b <;> rfl
    | _ => rfl
  rw [hleft]
  cases b with
  | untyped t => cases a <;> rfl
  | _ => rfl

/-- A comparison succeeds exactly with what its operator makes of the relation. -/
theorem compareBy_eq_ok_iff {v : Bool} :
    compareBy op a b ctx = .ok v ↔
      ∃ r, relate? a b ctx = some (.ok r) ∧ decideOp op r = some v := by
  rw [compareBy, relate?_untypedAsString]
  cases relate? a b ctx with
  | none => simp
  | some r =>
    cases r with
    | error e => simp [Except.bind]
    | ok r => cases hop : decideOp op r <;> simp [Except.bind, hop]

/-- Two values are equal, as the operator `eq` has it. -/
abbrev Equal (ctx : ValueContext) (a b : Atomic) : Prop := compareBy .eq a b ctx = .ok true

theorem equal_iff :
    Equal ctx a b ↔
      relate? a b ctx = some (.ok (.ordered (some .eq))) ∨
        relate? a b ctx = some (.ok (.equality true)) := by
  rw [Equal, compareBy_eq_ok_iff]
  constructor
  · rintro ⟨r, hr, hop⟩
    cases r with
    | ordered o =>
      cases o with
      | none => simp [decideOp, ComparisonOp.holds] at hop
      | some o =>
        have ho : o = .eq := by simpa [decideOp, ComparisonOp.holds] using hop
        exact .inl (ho ▸ hr)
    | equality e =>
      have he : e = true := by simpa [decideOp, ComparisonOp.isEquality] using hop
      exact .inr (he ▸ hr)
  · rintro (hr | hr)
    · exact ⟨_, hr, rfl⟩
    · exact ⟨_, hr, rfl⟩

theorem Equal.ground (h : Equal ctx a b) : a.type.ground = b.type.ground := by
  rcases equal_iff.1 h with h | h
  · exact ground_of_relate? h
  · exact ground_of_relate? h

/-! ### Equal values, pairing by pairing -/

theorem equal_iff_of_ordered {o : Option Ordering}
    (h : relate? a b ctx = some (.ok (.ordered o))) : Equal ctx a b ↔ o = some .eq := by
  simp [equal_iff, h]

theorem equal_iff_of_equality {e : Bool} (h : relate? a b ctx = some (.ok (.equality e))) :
    Equal ctx a b ↔ e = true := by
  simp [equal_iff, h]

theorem equal_numbers_iff {x y : Number} (ha : Number.ofAtomic? a = some x)
    (hb : Number.ofAtomic? b = some y) : Equal ctx a b ↔ x.compare? y = some .eq :=
  equal_iff_of_ordered (relate?_numbers ha hb)

theorem compareText_eq_iff {s t : String} : compareText s t = .eq ↔ s = t := by
  unfold compareText compareOfLessAndEq
  constructor
  · intro h
    split at h
    · cases h
    · split at h
      · assumption
      · cases h
  · rintro rfl
    simp

theorem equal_texts_iff {s t : String} (ha : a.text? = some s) (hb : b.text? = some t) :
    Equal ctx a b ↔ s = t := by
  rw [equal_iff_of_ordered (relate?_texts ha hb), Option.some.injEq, compareText_eq_iff]

/-- The seconds of a duration are taken in normal form. -/
theorem normal_of_parts {p : Int × Decimal} (h : a.durationParts? = some p) : p.2.IsNormal := by
  cases a with
  | duration m s | dayTimeDuration s =>
    cases h
    exact s.normalize_isNormal
  | yearMonthDuration m =>
    cases h
    exact .inl rfl
  | _ => cases h

/-- Durations are equal if their parts are, but not one of months alone and one of seconds
    alone. -/
theorem equal_durations_iff {p q : Int × Decimal} (ha : a.durationParts? = some p)
    (hb : b.durationParts? = some q) :
    Equal ctx a b ↔
      p = q ∧ ¬(a.type = .yearMonthDuration ∧ b.type = .dayTimeDuration) ∧
        ¬(a.type = .dayTimeDuration ∧ b.type = .yearMonthDuration) := by
  have hrelate : relate? a b ctx = _ := relate?_durations ha
  have hparts : (p.1 == q.1 && p.2.same q.2) = true ↔ p = q := by
    rw [Bool.and_eq_true, beq_iff_eq, Decimal.same_iff, Prod.ext_iff]
    refine and_congr_right fun _ => ⟨fun h => ?_, fun h => h ▸ rfl⟩
    exact (normal_of_parts ha).eq_of_value (normal_of_parts hb) h
  cases a with
  | duration m s =>
    -- A duration of the general kind is equal to any other by its parts.
    cases b with
    | duration n t | yearMonthDuration n | dayTimeDuration t =>
      cases ha
      cases hb
      rw [equal_iff_of_equality hrelate, hparts]
      simp [type]
    | _ => cases hb
  | yearMonthDuration m =>
    cases ha
    cases b with
    | duration n t =>
      cases hb
      rw [equal_iff_of_equality hrelate, hparts]
      simp [type]
    | yearMonthDuration n =>
      cases hb
      rw [equal_iff_of_ordered hrelate, Option.some.injEq, compare_eq_iff_eq]
      simp [type]
    | dayTimeDuration t => simp [equal_iff, hrelate, relateDurations?, relateOthers?, type]
    | _ => cases hb
  | dayTimeDuration s =>
    cases ha
    cases b with
    | duration n t =>
      cases hb
      rw [equal_iff_of_equality hrelate, hparts]
      simp [type]
    | yearMonthDuration n => simp [equal_iff, hrelate, relateDurations?, relateOthers?, type]
    | dayTimeDuration t =>
      cases hb
      rw [equal_iff_of_ordered hrelate, Option.some.injEq, Decimal.compare_eq_eq_iff,
        ← Decimal.normalize_eq_iff]
      simp [type]
    | _ => cases hb
  | _ => cases ha

theorem equal_times_iff {s t : DateTime × Option Offset} (ha : a.localTime? = some s)
    (hb : b.localTime? = some t) (htype : a.type = b.type) (hkind : ∀ k, a.type ≠ .fragment k) :
    Equal ctx a b ↔
      ∃ u v, toUtc s.1 s.2 ctx = .ok u ∧ toUtc t.1 t.2 ctx = .ok v ∧ u.nanos = v.nanos := by
  rw [equal_iff, relate?_times ha hb htype hkind, compareInstants]
  cases toUtc s.1 s.2 ctx with
  | error e => simp [bind, Except.bind]
  | ok u =>
    cases toUtc t.1 t.2 ctx with
    | error e => simp [bind, Except.bind]
    | ok v => simp [bind, Except.bind, pure, Except.pure]

theorem equal_fragments_iff {f g : Fragment} {fZone gZone : Option Offset}
    (h : f.kind = g.kind) :
    Equal ctx (fragment f fZone) (fragment g gZone) ↔
      ∃ x, fragmentInstant f fZone ctx = .ok x ∧ fragmentInstant g gZone ctx = .ok x := by
  rw [equal_iff, relate?_fragments h]
  cases fragmentInstant f fZone ctx with
  | error e => simp [bind, Except.bind]
  | ok x =>
    cases fragmentInstant g gZone ctx with
    | error e => simp [bind, Except.bind]
    | ok y =>
      simp only [bind, Except.bind, pure, Except.pure, Except.ok.injEq, Option.some.injEq,
        Relation.equality.injEq, beq_iff_eq, reduceCtorEq, false_or, exists_eq_left']
      exact eq_comm

theorem equal_booleans_iff {x y : Bool} : Equal ctx (boolean x) (boolean y) ↔ x = y :=
  (equal_iff_of_ordered rfl).trans (by rw [Option.some.injEq, compare_eq_iff_eq])

theorem equal_qNames_iff {p q : QName} :
    Equal ctx (qName p) (qName q) ↔ p.uri = q.uri ∧ p.localName = q.localName :=
  (equal_iff_of_equality rfl).trans (by simp)

theorem equal_notations_iff {s t : String} :
    Equal ctx (notationName s) (notationName t) ↔ s = t :=
  (equal_iff_of_equality rfl).trans (by simp)

theorem equal_hexBinaries_iff {s t : String} :
    Equal ctx (hexBinary s) (hexBinary t) ↔
      Text.Hex.decode? s.toList = Text.Hex.decode? t.toList :=
  (equal_iff_of_equality rfl).trans (by simp)

theorem equal_base64Binaries_iff {s t : String} :
    Equal ctx (base64Binary s) (base64Binary t) ↔ s = t :=
  (equal_iff_of_equality rfl).trans (by simp)

end Atomic

end XPathData
