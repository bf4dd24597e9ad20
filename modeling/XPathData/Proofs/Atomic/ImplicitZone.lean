import XPathData.Proofs.Calendar.Difference

/-! # The implicit timezone

  The timezone of the context stands in where a date or time has none, and this is all that it is
  for. Another context moves the instants of all values without a timezone by the same time, and
  those of values with a timezone not at all. So the order of two values, the equality of their
  keys and the time between them stay as they are if both have a timezone or neither has one.
  Where no two dates or times meet the timezone is not looked at.

  * `ValueContext.move` — what another context adds to an instant
  * `EqualityKey.Moved` — the keys of a value in two contexts
  * `Atomic.LikeZoned` — two dates or times, both with a timezone or both without
  * `Atomic.OfOneTime` — the operands for which the timezone is looked at
  * `Atomic.implicit_zone_for_mixed_pairs` — the timezone matters to mixed pairs only
-/

namespace XPathData

variable {a b : Atomic} {ctx ctx' : ValueContext} {d : Int}

/-! ### Instants in two contexts -/

/-- What the second context adds to the instant of a value that has a timezone or has none. -/
def ValueContext.move (ctx ctx' : ValueContext) (hasZone : Bool) : Int :=
  if hasZone then 0 else ctx.zone.nanos - ctx'.zone.nanos

/-- The instants of a value in two contexts, if it has them. -/
def MovedBy (d : Int) (x x' : Option DateTime) : Prop :=
  x'.map DateTime.nanos = x.map fun t => t.nanos + d

theorem movedBy_some {u u' : DateTime} : MovedBy d (some u) (some u') ↔ u'.nanos = u.nanos + d :=
  Option.some_inj

/-- Values that are moved alike have one instant in both contexts or in neither. -/
theorem eq_iff_of_movedBy {x x' y y' : Option DateTime} (hx : MovedBy d x x')
    (hy : MovedBy d y y') : x = y ↔ x' = y' := by
  have hnanos : Function.Injective DateTime.nanos := fun _ _ => DateTime.nanos_inj
  have hmoved : Function.Injective fun t : DateTime => t.nanos + d :=
    (add_left_injective d).comp hnanos
  rw [← (Option.map_injective hmoved).eq_iff, ← hx, ← hy, (Option.map_injective hnanos).eq_iff]

namespace Atomic

/-- The value carries a timezone. -/
def hasZone : Atomic → Bool
  | dateTime _ zone | date _ zone | time _ zone | fragment _ zone => zone.isSome
  | _ => false

theorem hasZone_of_localTime {t : DateTime × Option Offset} (h : a.localTime? = some t) :
    a.hasZone = t.2.isSome := by
  cases a with
  | dateTime | date | time =>
    cases h
    rfl
  | fragment f zone =>
    obtain ⟨s, -, rfl⟩ := Option.map_eq_some_iff.1 h
    rfl
  | _ => cases h

theorem toUtc_moved {t u u' : DateTime} {zone : Option Offset} (hu : toUtc t zone ctx = .ok u)
    (hu' : toUtc t zone ctx' = .ok u') : u'.nanos = u.nanos + ctx.move ctx' zone.isSome := by
  rw [toUtc_eq_ok_iff] at hu hu'
  rw [hu, hu']
  cases zone with
  | none =>
    show t.nanos - ctx'.zone.nanos = t.nanos - ctx.zone.nanos + (ctx.zone.nanos - ctx'.zone.nanos)
    omega
  | some o =>
    show t.nanos - o.nanos = t.nanos - o.nanos + 0
    omega

/-- The times of the value stay in the calendar in both contexts. -/
def StaysInBoth (ctx ctx' : ValueContext) (a : Atomic) : Prop :=
  a.staysInCalendar ctx = true ∧ a.staysInCalendar ctx' = true

theorem exists_toUtc_moved {t : DateTime × Option Offset} (ha : a.localTime? = some t)
    (h : a.StaysInBoth ctx ctx') :
    ∃ u u', toUtc t.1 t.2 ctx = .ok u ∧ toUtc t.1 t.2 ctx' = .ok u' ∧
      u'.nanos = u.nanos + ctx.move ctx' a.hasZone := by
  obtain ⟨u, hu⟩ := exists_toUtc ha h.1
  obtain ⟨u', hu'⟩ := exists_toUtc ha h.2
  rw [hasZone_of_localTime ha]
  exact ⟨u, u', hu, hu', toUtc_moved hu hu'⟩

theorem exists_fragmentInstant_moved {f : Fragment} {zone : Option Offset}
    (h : (fragment f zone).StaysInBoth ctx ctx') :
    ∃ x x', fragmentInstant f zone ctx = .ok x ∧ fragmentInstant f zone ctx' = .ok x' ∧
      MovedBy (ctx.move ctx' zone.isSome) x x' := by
  cases hstart : f.start? with
  | none =>
    have hnone (c : ValueContext) : fragmentInstant f zone c = .ok none :=
      fragmentInstant_of_none hstart zone
    exact ⟨none, none, hnone ctx, hnone ctx', rfl⟩
  | some t =>
    have hlocal := localTime?_of_start hstart zone
    obtain ⟨u, u', hu, hu', hmoved⟩ := exists_toUtc_moved hlocal h
    refine ⟨some u, some u', ?_, ?_, movedBy_some.2 hmoved⟩
    · rw [fragmentInstant_of_start hstart, hu]
      rfl
    · rw [fragmentInstant_of_start hstart, hu']
      rfl

end Atomic

/-! ### Keys in two contexts -/

namespace EqualityKey

/-- The keys of a date or time in two contexts: the instant is moved, and the text of a fragment
    that starts beyond the calendar stays. -/
inductive Moved (d : Int) : EqualityKey → EqualityKey → Prop where
  | instant (type : AtomicType) {t t' : DateTime} (h : t'.nanos = t.nanos + d) :
    Moved d (.instant type t) (.instant type t')
  | lexical (type : AtomicType) (text : String) : Moved d (.lexical type text) (.lexical type text)

theorem Moved.eq_iff {k k' l l' : EqualityKey} (hk : Moved d k k') (hl : Moved d l l') :
    k = l ↔ k' = l' := by
  cases hk with
  | instant type h =>
    cases hl with
    | instant type' h' =>
      have htime := eq_iff_of_movedBy (movedBy_some.2 h) (movedBy_some.2 h')
      rw [Option.some_inj, Option.some_inj] at htime
      rw [EqualityKey.instant.injEq, EqualityKey.instant.injEq, htime]
    | lexical => exact iff_of_false nofun nofun
  | lexical type text =>
    cases hl with
    | instant => exact iff_of_false nofun nofun
    | lexical => exact Iff.rfl

theorem exists_moved (ha : a.type.isTemporal = true) (h : a.StaysInBoth ctx ctx') :
    ∃ k k', of a ctx = .ok k ∧ of a ctx' = .ok k' ∧ Moved (ctx.move ctx' a.hasZone) k k' := by
  cases ht : a.localTime? with
  | some t =>
    obtain ⟨u, u', hu, hu', hmoved⟩ := Atomic.exists_toUtc_moved ht h
    refine ⟨.instant a.type u, .instant a.type u', ?_, ?_, .instant a.type hmoved⟩
    · rw [of_localTime ht, hu]
      rfl
    · rw [of_localTime ht, hu']
      rfl
  | none =>
    cases a with
    | dateTime | date | time => cases ht
    | fragment f zone =>
      have hstart : f.start? = none := Option.map_eq_none_iff.1 ht
      exact ⟨_, _, of_fragment_beyond hstart zone, of_fragment_beyond hstart zone, .lexical _ _⟩
    | _ => cases ha

/-- The key of a value that is no date or time does not depend on the timezone. -/
theorem of_eq_of_not_isTemporal (ha : ¬ a.type.isTemporal = true) (ctx ctx' : ValueContext) :
    of a ctx = of a ctx' := by
  cases a with
  | dateTime | date | time | fragment => exact absurd rfl ha
  | _ => rfl

end EqualityKey

namespace Atomic

/-! ### Two values with timezones or without -/

/-- Two values of one type of dates and times, both with a timezone or both without, whose times
    stay in the calendar in both contexts. -/
structure LikeZoned (ctx ctx' : ValueContext) (a b : Atomic) : Prop where
  temporal : a.type.isTemporal = true
  type : a.type = b.type
  zones : a.hasZone = b.hasZone
  left : a.StaysInBoth ctx ctx'
  right : b.StaysInBoth ctx ctx'

namespace LikeZoned

/-- The two instants of values that are no fragments, in both contexts. -/
theorem exists_instants (h : LikeZoned ctx ctx' a b) (hkind : ∀ k, a.type ≠ .fragment k) :
    ∃ s t u v u' v', (a.localTime? = some s ∧ b.localTime? = some t) ∧
      (toUtc s.1 s.2 ctx = .ok u ∧ toUtc t.1 t.2 ctx = .ok v) ∧
      (toUtc s.1 s.2 ctx' = .ok u' ∧ toUtc t.1 t.2 ctx' = .ok v') ∧
      ∃ d, u'.nanos = u.nanos + d ∧ v'.nanos = v.nanos + d := by
  obtain ⟨s, hs⟩ := exists_localTime h.temporal hkind
  obtain ⟨t, ht⟩ := exists_localTime (h.type ▸ h.temporal) (h.type ▸ hkind)
  obtain ⟨u, u', hu, hu', hmoved⟩ := exists_toUtc_moved hs h.left
  obtain ⟨v, v', hv, hv', hmoved'⟩ := exists_toUtc_moved ht h.right
  rw [← h.zones] at hmoved'
  exact ⟨s, t, u, v, u', v', ⟨hs, ht⟩, ⟨hu, hv⟩, ⟨hu', hv'⟩, _, hmoved, hmoved'⟩

theorem relate?_fragments_eq {f g : Fragment} {fZone gZone : Option Offset}
    (h : LikeZoned ctx ctx' (fragment f fZone) (fragment g gZone)) :
    relate? (fragment f fZone) (fragment g gZone) ctx =
      relate? (fragment f fZone) (fragment g gZone) ctx' := by
  obtain ⟨x, x', hx, hx', hmoved⟩ := exists_fragmentInstant_moved h.left
  obtain ⟨y, y', hy, hy', hmoved'⟩ := exists_fragmentInstant_moved h.right
  have hkind : f.kind = g.kind := AtomicType.fragment.inj h.type
  have hzones : fZone.isSome = gZone.isSome := h.zones
  rw [← hzones] at hmoved'
  -- A fragment that starts beyond the calendar has no instant in either context.
  have hequal : (x == y) = (x' == y') := by
    rw [Bool.eq_iff_iff, beq_iff_eq, beq_iff_eq]
    exact eq_iff_of_movedBy hmoved hmoved'
  rw [relate?_fragments hkind, relate?_fragments hkind, hx, hy, hx', hy']
  show some (Except.ok (Relation.equality (x == y))) = _
  rw [hequal]
  rfl

theorem relate?_times_eq (h : LikeZoned ctx ctx' a b) (hkind : ∀ k, a.type ≠ .fragment k) :
    relate? a b ctx = relate? a b ctx' := by
  obtain ⟨s, t, u, v, u', v', ⟨hs, ht⟩, ⟨hu, hv⟩, ⟨hu', hv'⟩, d, hmoved, hmoved'⟩ :=
    h.exists_instants hkind
  have horder : compare u.nanos v.nanos = compare u'.nanos v'.nanos := by
    rw [hmoved, hmoved', ← cmp_eq_compare, ← cmp_eq_compare, cmp_add_right]
  rw [relate?_times hs ht h.type hkind, relate?_times hs ht h.type hkind, compareInstants,
    compareInstants, hu, hv, hu', hv']
  show some (Except.ok (Relation.ordered (some (compare u.nanos v.nanos)))) = _
  rw [horder]
  rfl

/-- They relate alike. -/
theorem relate?_eq (h : LikeZoned ctx ctx' a b) : relate? a b ctx = relate? a b ctx' := by
  by_cases hkind : ∃ k, a.type = .fragment k
  · obtain ⟨k, hk⟩ := hkind
    obtain ⟨f, fZone, rfl, -⟩ := exists_fragment hk
    obtain ⟨g, gZone, rfl, -⟩ := exists_fragment (h.type ▸ hk)
    exact h.relate?_fragments_eq
  · exact h.relate?_times_eq (not_exists.1 hkind)

/-- Their keys are equal in both contexts or in neither. -/
theorem exists_keys (h : LikeZoned ctx ctx' a b) :
    ∃ k l k' l', (EqualityKey.of a ctx = .ok k ∧ EqualityKey.of b ctx = .ok l) ∧
      (EqualityKey.of a ctx' = .ok k' ∧ EqualityKey.of b ctx' = .ok l') ∧ (k = l ↔ k' = l') := by
  obtain ⟨k, k', hk, hk', hmoved⟩ := EqualityKey.exists_moved h.temporal h.left
  obtain ⟨l, l', hl, hl', hmoved'⟩ := EqualityKey.exists_moved (h.type ▸ h.temporal) h.right
  rw [← h.zones] at hmoved'
  exact ⟨k, l, k', l', ⟨hk, hl⟩, ⟨hk', hl'⟩, hmoved.eq_iff hmoved'⟩

/-- The time between them is the same. -/
theorem between_eq (h : LikeZoned ctx ctx' a b) : between a b ctx = between a b ctx' := by
  by_cases hkind : ∃ k, a.type = .fragment k
  · obtain ⟨k, hk⟩ := hkind
    obtain ⟨f, zone, rfl, -⟩ := exists_fragment hk
    rfl
  · have hkind' : ∀ k, a.type ≠ .fragment k := fun k hk => hkind ⟨k, hk⟩
    obtain ⟨s, t, u, v, u', v', ⟨hs, ht⟩, ⟨hu, hv⟩, ⟨hu', hv'⟩, d, hmoved, hmoved'⟩ :=
      h.exists_instants hkind'
    have hdistance : u'.nanos - v'.nanos = u.nanos - v.nanos := by
      rw [hmoved, hmoved', add_sub_add_right_eq_sub]
    rw [between_eq_difference hs ht h.type hkind', between_eq_difference hs ht h.type hkind']
    simp only [difference, hu, hv, hu', hv', bind, Except.bind, hdistance]

end LikeZoned

/-! ### Where the timezone is not looked at -/

/-- Both operands are of one type of dates and times. -/
def OfOneTime (a b : Atomic) : Prop := a.type = b.type ∧ a.type.isTemporal = true

/-- There is no time between fragments, not even between those of one kind. -/
theorem between_eq_none (h : ¬ (OfOneTime a b ∧ ∀ k, a.type ≠ .fragment k)) (ctx : ValueContext) :
    between a b ctx = none := by
  unfold between
  split
  case h_4 => rfl
  all_goals exact absurd ⟨⟨rfl, rfl⟩, nofun⟩ h

theorem relateTemporal?_eq_none (h : ¬ OfOneTime a b) (ctx : ValueContext) :
    relateTemporal? a b ctx = none := by
  unfold relateTemporal?
  split
  case h_4 => exact if_neg fun hkind => h ⟨congrArg AtomicType.fragment hkind, rfl⟩
  case h_5 => rfl
  all_goals exact absurd ⟨rfl, rfl⟩ h

theorem relate?_eq_of_not_ofOneTime (h : ¬ OfOneTime a b) (ctx ctx' : ValueContext) :
    relate? a b ctx = relate? a b ctx' := by
  unfold relate?
  rw [relateTemporal?_eq_none h ctx, relateTemporal?_eq_none h ctx']

/-- A comparison depends on the context through the relation of its operands alone. -/
theorem compareBy_eq_of_relate? (h : relate? a b ctx = relate? a b ctx') (op : ComparisonOp) :
    compareBy op a b ctx = compareBy op a b ctx' := by
  rw [compareBy, compareBy, relate?_untypedAsString, relate?_untypedAsString, h]

/-- Operands that are dates or times enter as they are. -/
theorem gives_typedOperand (a : Atomic) :
    Gives (typedOperand a) fun x => x.type.isTemporal = true → x = a := by
  unfold typedOperand
  split
  · exact Gives.map fun _ => nofun
  · exact Gives.ok fun _ => rfl

/-- Only a difference looks at the timezone, and only between two dates or times. -/
theorem arithmetic_eq {op : ArithmeticOp}
    (h : op = .sub → ¬ (OfOneTime a b ∧ ∀ k, a.type ≠ .fragment k)) (ctx ctx' : ValueContext) :
    arithmetic op a b ctx = arithmetic op a b ctx' := by
  unfold arithmetic
  cases hx : typedOperand a with
  | error e => rfl
  | ok x =>
    cases hy : typedOperand b with
    | error e => rfl
    | ok y =>
      have htemporal : temporalArithmetic op x y ctx = temporalArithmetic op x y ctx' := by
        cases op with
        | sub =>
          -- Untyped operands have become doubles, which are no dates or times either.
          have hxy : ¬ (OfOneTime x y ∧ ∀ k, x.type ≠ .fragment k) := by
            rintro ⟨htime, hkind⟩
            obtain rfl := gives_typedOperand a x hx htime.2
            obtain rfl := gives_typedOperand b y hy (htime.1 ▸ htime.2)
            exact h rfl ⟨htime, hkind⟩
          unfold temporalArithmetic
          dsimp only
          rw [between_eq_none hxy ctx, between_eq_none hxy ctx']
        | _ => rfl
      show typedArithmetic op x y ctx = typedArithmetic op x y ctx'
      unfold typedArithmetic
      rw [htemporal]

/-- Of the context a cast uses the prefixes alone. -/
theorem cast_eq (hnames : ctx.namespaces = ctx'.namespaces) (a : Atomic) (target : AtomicType) :
    a.cast target ctx = a.cast target ctx' := by
  have hresolve : ctx.resolve? = ctx'.resolve? := by
    funext nsPrefix
    unfold ValueContext.resolve?
    rw [hnames]
  have hqName : castQName a ctx = castQName a ctx' := by
    unfold castQName
    rw [hresolve]
  unfold cast convert
  rw [hqName]

theorem generalOperands_eq (hnames : ctx.namespaces = ctx'.namespaces) (a b : Atomic) :
    generalOperands a b ctx = generalOperands a b ctx' := by
  have hbeside (s : String) (c : Atomic) : castBeside s c ctx = castBeside s c ctx' := by
    unfold castBeside
    rw [cast_eq hnames]
  unfold generalOperands
  simp only [hbeside]

/-- One of the operands of a general comparison stays as it is, or both become strings. -/
theorem gives_generalOperands (ha : ¬ a.type.isTemporal = true) (hb : ¬ b.type.isTemporal = true) :
    Gives (generalOperands a b ctx) fun p => ¬ OfOneTime p.1 p.2 := by
  unfold generalOperands
  split
  · exact Gives.ok fun h => nomatch h.2
  · exact Gives.map fun _ h => hb (h.1 ▸ h.2)
  · exact Gives.map fun _ h => ha h.2
  · exact Gives.ok fun h => ha h.2

theorem generalPair_eq (hnames : ctx.namespaces = ctx'.namespaces)
    (ha : ¬ a.type.isTemporal = true) (hb : ¬ b.type.isTemporal = true) (op : ComparisonOp) :
    generalPair op a b ctx = generalPair op a b ctx' := by
  unfold generalPair
  rw [← generalOperands_eq hnames]
  cases hoperands : generalOperands a b ctx with
  | error e => rfl
  | ok p =>
    have hp := gives_generalOperands ha hb p hoperands
    exact compareBy_eq_of_relate? (relate?_eq_of_not_ofOneTime hp ctx ctx') op

/-! ### All operations -/

/-- In two contexts that differ in their timezones, dates and times of one type that both have a
    timezone or both have none compare alike, have equal keys alike and lie equally far apart. All
    other operations, and those on all other values, do not depend on the timezone. -/
theorem implicit_zone_for_mixed_pairs (ctx ctx' : ValueContext)
    (hnames : ctx.namespaces = ctx'.namespaces) :
    (∀ a b : Atomic, LikeZoned ctx ctx' a b →
      (∀ op, compareBy op a b ctx = compareBy op a b ctx') ∧
      (∃ k l k' l', (EqualityKey.of a ctx = .ok k ∧ EqualityKey.of b ctx = .ok l) ∧
        (EqualityKey.of a ctx' = .ok k' ∧ EqualityKey.of b ctx' = .ok l') ∧ (k = l ↔ k' = l')) ∧
      arithmetic .sub a b ctx = arithmetic .sub a b ctx') ∧
    (∀ op (a b : Atomic), (op = .sub → ¬ (OfOneTime a b ∧ ∀ k, a.type ≠ .fragment k)) →
      arithmetic op a b ctx = arithmetic op a b ctx') ∧
    (∀ (a : Atomic) target, a.cast target ctx = a.cast target ctx') ∧
    (∀ op (a b : Atomic), ¬ OfOneTime a b → compareBy op a b ctx = compareBy op a b ctx') ∧
    ∀ a b : Atomic, ¬ a.type.isTemporal = true → ¬ b.type.isTemporal = true →
      (∀ op, generalPair op a b ctx = generalPair op a b ctx') ∧
      EqualityKey.of a ctx = EqualityKey.of a ctx' := by
  refine ⟨fun a b h => ⟨compareBy_eq_of_relate? h.relate?_eq, h.exists_keys, ?_⟩, ?_,
    cast_eq hnames, ?_, fun a b ha hb => ⟨generalPair_eq hnames ha hb, ?_⟩⟩
  · rw [arithmetic_sub_temporal h.temporal (h.type ▸ h.temporal),
      arithmetic_sub_temporal h.temporal (h.type ▸ h.temporal), h.between_eq]
  · intro op a b h
    exact arithmetic_eq h ctx ctx'
  · intro op a b h
    exact compareBy_eq_of_relate? (relate?_eq_of_not_ofOneTime h ctx ctx') op
  · exact EqualityKey.of_eq_of_not_isTemporal ha ctx ctx'

/-- Noon and one o'clock without a timezone have one order and one distance far in the east and
    far in the west, while noon itself comes before or after noon in UTC. -/
theorem implicit_zone_for_mixed_pairs_noon :
    let east : ValueContext := ⟨⟨50400, by decide, by decide⟩, []⟩
    let west : ValueContext := ⟨⟨-50400, by decide, by decide⟩, []⟩
    let noon : Clock := ⟨43200000000000, by decide⟩
    let a : Atomic := time noon none
    let b : Atomic := time ⟨46800000000000, by decide⟩ none
    (east.namespaces = west.namespaces ∧ LikeZoned east west a b) ∧
      compareBy .lt a b west = .ok true ∧
      arithmetic .sub a b west = .ok (dayTimeDuration ⟨-3600, 0, by decide, by decide⟩) ∧
      compareBy .lt a (time noon (some .utc)) east = .ok true ∧
      compareBy .lt a (time noon (some .utc)) west = .ok false := by
  intro east west noon a b
  have hlike : LikeZoned east west a b :=
    ⟨rfl, rfl, rfl, ⟨by decide +kernel, by decide +kernel⟩, by decide +kernel, by decide +kernel⟩
  have hsame := (implicit_zone_for_mixed_pairs east west rfl).1 a b hlike
  refine ⟨⟨rfl, hlike⟩, ?_, ?_, by decide +kernel, by decide +kernel⟩
  · rw [← hsame.1]
    decide +kernel
  · rw [← hsame.2.2]
    decide +kernel

end Atomic

end XPathData
