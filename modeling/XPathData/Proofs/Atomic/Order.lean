import XPathData.Proofs.Atomic.Exchange

/-! # The order of values

  Two values have an order exactly if they are of one family, and then all operators follow from
  it. Outside the floating-point types each family is ranked: its values have places in a linear
  order, and they compare as their places do. A number has its exact value for a place, a date or
  time its instant, whether it shows a timezone or takes that of the context.

  * `AtomicType.family?` — the types whose values are ordered among themselves
  * `Atomic.meeting_of_staysInCalendar` — the three ways in which two values can meet
  * `Atomic.exists_rank` — each family has a rank
  * `Atomic.comparison_coherent` — all operators follow one preorder
-/

namespace XPathData

/-! ### Families -/

/-- The family that values of a type are ordered in, named for one of its types; none for the
    types that have no order. -/
def AtomicType.family? : AtomicType → Option AtomicType
  | untypedAtomic | string _ | anyURI => some (string .string)
  | decimal | integer _ | float | double => some decimal
  | boolean => some boolean
  | dateTime => some dateTime
  | date => some date
  | time => some time
  | yearMonthDuration => some yearMonthDuration
  | dayTimeDuration => some dayTimeDuration
  | _ => none

theorem AtomicType.ground_of_family {t f : AtomicType} (h : t.family? = some f) :
    t.ground = f.ground := by
  cases t <;> cases h <;> rfl

namespace Atomic

variable {a b c : Atomic} {ctx : ValueContext} {op : ComparisonOp} {o : Option Ordering}

/-- The values are of one family. -/
def SameFamily (a b : Atomic) : Prop :=
  ∃ f, a.type.family? = some f ∧ b.type.family? = some f

theorem SameFamily.ground (h : SameFamily a b) : a.type.ground = b.type.ground := by
  obtain ⟨f, ha, hb⟩ := h
  rw [AtomicType.ground_of_family ha, AtomicType.ground_of_family hb]

/-- Values of a type without an order are in no family. -/
theorem not_sameFamily (h : a.type.family? = none) : ¬ SameFamily a b := by
  rintro ⟨f, ha, -⟩
  rw [h] at ha
  cases ha

theorem not_sameFamily_of_ne (h : a.type.family? ≠ b.type.family?) : ¬ SameFamily a b := by
  rintro ⟨f, ha, hb⟩
  exact h (ha.trans hb.symm)

theorem family_of_number {x : Number} (h : Number.ofAtomic? a = some x) :
    a.type.family? = some .decimal := by
  cases a <;> first | rfl | cases h

theorem family_of_text {s : String} (h : a.text? = some s) :
    a.type.family? = some (.string .string) := by
  cases a <;> first | rfl | cases h

theorem isNaN_of_number {x : Number} (h : Number.ofAtomic? a = some x) : a.isNaN = x.isNaN := by
  cases a with
  | integer k n =>
    simp only [Number.ofAtomic?] at h
    split at h
    all_goals
      cases h
      rfl
  | decimal | float | double =>
    cases h
    rfl
  | _ => cases h

/-- Only numbers can be NaN. -/
theorem isNaN_of_family {f : AtomicType} (h : a.type.family? = some f) (hf : f ≠ .decimal) :
    a.isNaN = false := by
  cases a with
  | float | double =>
    cases h
    exact absurd rfl hf
  | _ => rfl

/-! ### Instants -/

/-- The instant that a date or time stands for; zero for values without one. -/
def instant (ctx : ValueContext) (a : Atomic) : Int :=
  match a.localTime? with
  | some (t, zone) => ((t.toUtc? (ctx.zoneOf zone)).map DateTime.nanos).getD 0
  | none => 0

theorem instant_of_toUtc {t : DateTime × Option Offset} {u : DateTime}
    (ht : a.localTime? = some t) (hu : toUtc t.1 t.2 ctx = .ok u) : a.instant ctx = u.nanos := by
  unfold toUtc at hu
  split at hu
  case h_1 v hv =>
    cases hu
    simp only [instant, ht, hv, Option.map_some, Option.getD_some]
  case h_2 => cases hu

/-- Times that stay in the calendar are compared by their instants. -/
theorem relate?_instant {s t : DateTime × Option Offset} (ha : a.localTime? = some s)
    (hb : b.localTime? = some t) (htype : a.type = b.type) (hkind : ∀ k, a.type ≠ .fragment k)
    (hsa : a.staysInCalendar ctx = true) (hsb : b.staysInCalendar ctx = true) :
    relate? a b ctx = some (.ok (.ordered (some (compare (a.instant ctx) (b.instant ctx))))) := by
  obtain ⟨u, hu⟩ := exists_toUtc ha hsa
  obtain ⟨v, hv⟩ := exists_toUtc hb hsb
  rw [instant_of_toUtc ha hu, instant_of_toUtc hb hv, relate?_times ha hb htype hkind,
    compareInstants, hu, hv]
  rfl

/-- The instant of a fragment that stays in the calendar is known, if it has one. -/
theorem exists_fragmentInstant {f : Fragment} {zone : Option Offset}
    (h : (fragment f zone).staysInCalendar ctx = true) :
    ∃ x, fragmentInstant f zone ctx = .ok x := by
  cases hstart : f.start? with
  | none => exact ⟨none, fragmentInstant_of_none hstart zone⟩
  | some t =>
    have hlocal := localTime?_of_start hstart zone
    obtain ⟨u, hu⟩ := exists_toUtc hlocal h
    refine ⟨some u, ?_⟩
    rw [fragmentInstant_of_start hstart, hu]
    rfl

/-- Values of one type of dates or times, other than fragments, are of one family. -/
theorem family_of_localTime {s : DateTime × Option Offset} (ha : a.localTime? = some s)
    (hkind : ∀ k, a.type ≠ .fragment k) :
    a.type.family? = some a.type ∧ a.type ≠ .decimal := by
  cases a with
  | dateTime | date | time => exact ⟨rfl, AtomicType.noConfusion⟩
  | fragment f zone => exact absurd rfl (hkind f.kind)
  | _ => cases ha

/-! ### Meetings -/

/-- What the comparison of two values finds. -/
inductive Meeting (ctx : ValueContext) (a b : Atomic) : Prop where
  /-- An order, which only NaN is left out of. -/
  | ordered (o : Option Ordering) (hfamily : SameFamily a b)
      (h : relate? a b ctx = some (.ok (.ordered o)))
      (hnan : o = none ↔ a.isNaN = true ∨ b.isNaN = true)
  /-- Equality or difference. -/
  | equality (e : Bool) (hfamily : ¬ SameFamily a b)
      (h : relate? a b ctx = some (.ok (.equality e)))
  /-- Nothing in common. -/
  | apart (hfamily : ¬ SameFamily a b) (h : relate? a b ctx = none)

/-- Values that are not numbers are in order, if they have one. -/
theorem Meeting.of_compare {f : AtomicType} {o : Ordering} (ha : a.type.family? = some f)
    (hb : b.type.family? = some f) (hf : f ≠ .decimal)
    (h : relate? a b ctx = some (.ok (.ordered (some o)))) : Meeting ctx a b := by
  refine .ordered (some o) ⟨f, ha, hb⟩ h ?_
  rw [isNaN_of_family ha hf, isNaN_of_family hb hf]
  simp

theorem meeting_of_parts {p q : Int × Decimal} (ha : a.durationParts? = some p)
    (hb : b.durationParts? = some q) : Meeting ctx a b := by
  have hrelate : relate? a b ctx = _ := relate?_durations ha
  cases a with
  | duration m s =>
    cases b with
    | duration | yearMonthDuration | dayTimeDuration =>
      cases ha
      cases hb
      exact .equality _ (not_sameFamily rfl) hrelate
    | _ => cases hb
  | yearMonthDuration m =>
    cases ha
    cases b with
    | duration =>
      cases hb
      exact .equality _ (not_sameFamily_of_ne nofun) hrelate
    | yearMonthDuration n => exact .of_compare rfl rfl AtomicType.noConfusion hrelate
    | dayTimeDuration t => exact .apart (not_sameFamily_of_ne nofun) hrelate
    | _ => cases hb
  | dayTimeDuration s =>
    cases ha
    cases b with
    | duration =>
      cases hb
      exact .equality _ (not_sameFamily_of_ne nofun) hrelate
    | yearMonthDuration n => exact .apart (not_sameFamily_of_ne nofun) hrelate
    | dayTimeDuration t => exact .of_compare rfl rfl AtomicType.noConfusion hrelate
    | _ => cases hb
  | _ => cases ha

/-- Values whose times stay in the calendar meet in one of the three ways. -/
theorem meeting_of_staysInCalendar (ha : a.staysInCalendar ctx = true)
    (hb : b.staysInCalendar ctx = true) : Meeting ctx a b := by
  -- Without a common ground there is nothing to find, and on one ground the pairing decides.
  by_cases hground : a.type.ground = b.type.ground
  · cases pairing_of_ground hground with
    | numbers hx hy =>
      refine .ordered _ ⟨_, family_of_number hx, family_of_number hy⟩ (relate?_numbers hx hy) ?_
      rw [isNaN_of_number hx, isNaN_of_number hy, Number.compare?_eq_none_iff]
    | texts hs ht =>
      exact .of_compare (family_of_text hs) (family_of_text ht) AtomicType.noConfusion
        (relate?_texts hs ht)
    | durations hp hq => exact meeting_of_parts hp hq
    | times hs ht htype hkind =>
      obtain ⟨hfamily, hdecimal⟩ := family_of_localTime hs hkind
      exact .of_compare hfamily (htype ▸ hfamily) hdecimal
        (relate?_instant hs ht htype hkind ha hb)
    | fragments f g fZone gZone hkind =>
      obtain ⟨x, hx⟩ := exists_fragmentInstant ha
      obtain ⟨y, hy⟩ := exists_fragmentInstant hb
      refine .equality (x == y) (not_sameFamily rfl) ?_
      rw [relate?_fragments hkind, hx, hy]
      rfl
    | booleans x y => exact .of_compare rfl rfl AtomicType.noConfusion rfl
    | qNames p q => exact .equality _ (not_sameFamily rfl) rfl
    | notations s t => exact .equality _ (not_sameFamily rfl) rfl
    | hexBinaries s t => exact .equality _ (not_sameFamily rfl) rfl
    | base64Binaries s t => exact .equality _ (not_sameFamily rfl) rfl
  · exact .apart (mt SameFamily.ground hground) (relate?_eq_none hground)

/-! ### Answers -/

/-- The operator is not defined for the types of the operands. -/
def Refused (r : Outcome Bool) : Prop :=
  ∃ e : Error, r = .error (.error e) ∧ e.code = ErrorCode.typeError.name

/-- Both comparisons have the same answer, or both are refused. -/
def Agree (r s : Outcome Bool) : Prop := (∃ v, r = .ok v ∧ s = .ok v) ∨ Refused r ∧ Refused s

theorem compareBy_of_ordered (h : relate? a b ctx = some (.ok (.ordered o))) (op : ComparisonOp) :
    compareBy op a b ctx = .ok (op.holds o) :=
  compareBy_eq_ok_iff.2 ⟨_, h, rfl⟩

theorem refused_notComparable : Refused (.error (notComparable op a b)) := ⟨_, rfl, rfl⟩

theorem refused_of_relation {r : Relation} (h : relate? a b ctx = some (.ok r))
    (hop : decideOp op r = none) : Refused (compareBy op a b ctx) := by
  unfold compareBy
  dsimp only
  rw [relate?_untypedAsString, h]
  simp only [Except.bind, hop]
  exact refused_notComparable

theorem refused_of_none (h : relate? a b ctx = none) (op : ComparisonOp) :
    Refused (compareBy op a b ctx) := by
  unfold compareBy
  dsimp only
  rw [relate?_untypedAsString, h]
  exact refused_notComparable

/-- Operators that decide two relations alike agree on the values that relate so. -/
theorem agree_of_relations {a' b' : Atomic} {op' : ComparisonOp} {r s : Relation}
    (hr : relate? a b ctx = some (.ok r)) (hs : relate? a' b' ctx = some (.ok s))
    (hop : decideOp op r = decideOp op' s) :
    Agree (compareBy op a b ctx) (compareBy op' a' b' ctx) := by
  cases hv : decideOp op r with
  | some v =>
    exact .inl ⟨v, compareBy_eq_ok_iff.2 ⟨r, hr, hv⟩, compareBy_eq_ok_iff.2 ⟨s, hs, hop ▸ hv⟩⟩
  | none => exact .inr ⟨refused_of_relation hr hv, refused_of_relation hs (hop ▸ hv)⟩

/-- The converse operator agrees on the exchanged values. -/
theorem Meeting.agree_converse (h : Meeting ctx a b) (op : ComparisonOp) :
    Agree (compareBy op a b ctx) (compareBy op.converse b a ctx) := by
  have hswap := relate?_swap a b ctx
  cases h with
  | ordered o _ h _ | equality o _ h =>
    rw [h] at hswap
    exact agree_of_relations h hswap (decideOp_converse op _).symm
  | apart _ h =>
    rw [h] at hswap
    exact .inr ⟨refused_of_none h op, refused_of_none hswap op.converse⟩

/-- Two values differ exactly if they are not equal. -/
theorem Meeting.agree_negation (h : Meeting ctx a b) :
    Agree (compareBy .ne a b ctx) ((compareBy .eq a b ctx).map not) := by
  cases h with
  | ordered o _ h _ =>
    rw [compareBy_of_ordered h, compareBy_of_ordered h]
    exact .inl ⟨_, rfl, by rcases o with _ | _ | _ | _ <;> rfl⟩
  | equality e _ h =>
    have heq : compareBy .eq a b ctx = .ok e := compareBy_eq_ok_iff.2 ⟨_, h, by cases e <;> rfl⟩
    refine .inl ⟨!e, compareBy_eq_ok_iff.2 ⟨_, h, by cases e <;> rfl⟩, ?_⟩
    rw [heq]
    rfl
  | apart _ h =>
    obtain ⟨e, he, hcode⟩ := refused_of_none h .eq
    refine .inr ⟨refused_of_none h .ne, e, ?_, hcode⟩
    rw [he]
    rfl

/-! ### Ranks -/

/-- The rational number that an integer or a decimal is. -/
def exactValue? : Atomic → Option ℚ
  | integer _ n => some n.val
  | decimal d => some d.value
  | _ => none

/-- An exact number is compared as a decimal of its value. -/
theorem exists_exactDecimal {x : ℚ} (h : a.exactValue? = some x) :
    ∃ n d, Number.ofAtomic? a = some n ∧ n.exactDecimal? = some d ∧ d.value = x := by
  cases a with
  | integer k n =>
    cases h
    cases hword : (Bounded.ofInt? n.val : Option Signed64) with
    | some i =>
      refine ⟨.int i, .ofSigned64 i, ?_, rfl, ?_⟩
      · simp only [Number.ofAtomic?, hword]
      · rw [Decimal.value_ofSigned64, Bounded.ofInt?_eq_some_iff.1 hword]
    | none =>
      refine ⟨.dec (.ofWord n k.bounds), .ofWord n k.bounds, ?_, rfl, Decimal.value_ofWord n _⟩
      simp only [Number.ofAtomic?, hword]
  | decimal d =>
    cases h
    exact ⟨.dec d, d, rfl, rfl, rfl⟩
  | _ => cases h

theorem relate?_exact {x y : ℚ} (hx : a.exactValue? = some x) (hy : b.exactValue? = some y) :
    relate? a b ctx = some (.ok (.ordered (some (compare x y)))) := by
  obtain ⟨m, d, hm, hd, rfl⟩ := exists_exactDecimal hx
  obtain ⟨n, e, hn, he, rfl⟩ := exists_exactDecimal hy
  rw [relate?_numbers hm hn, Number.compare?_exact hd he, Decimal.compare_eq_value]

theorem exists_text_of_family {k : StringKind} (h : a.type.family? = some (.string k)) :
    ∃ s, a.text? = some s := by
  cases a with
  | untyped s => exact ⟨s, rfl⟩
  | string k s => exact ⟨s, rfl⟩
  | anyURI s => exact ⟨s, rfl⟩
  | _ => cases h

theorem exists_exactValue (h : a.type.family? = some .decimal) (hexact : a.isExact = true) :
    ∃ x, a.exactValue? = some x := by
  cases a with
  | integer k n => exact ⟨n.val, rfl⟩
  | decimal d => exact ⟨d.value, rfl⟩
  | float | double => cases hexact
  | _ => cases h

/-- The value is of the family, not of a floating-point type and in the calendar. -/
structure HasPlace (ctx : ValueContext) (f : AtomicType) (a : Atomic) : Prop where
  family : a.type.family? = some f
  exact : a.isExact = true
  stays : a.staysInCalendar ctx = true

/-- The values of a family are compared by their places in a linear order. -/
theorem exists_rank (ctx : ValueContext) (f : AtomicType) :
    ∃ (α : Type) (_ : LinearOrder α) (rank : Atomic → α), ∀ a b,
      HasPlace ctx f a → HasPlace ctx f b →
        relate? a b ctx = some (.ok (.ordered (some (compare (rank a) (rank b))))) := by
  cases f with
  | string k =>
    refine ⟨String, inferInstance, fun a => a.text?.getD "", ?_⟩
    intro a b ha hb
    obtain ⟨s, hs⟩ := exists_text_of_family ha.family
    obtain ⟨t, ht⟩ := exists_text_of_family hb.family
    simp only [relate?_texts hs ht, compareText_eq, hs, ht, Option.getD_some]
  | decimal =>
    refine ⟨ℚ, inferInstance, fun a => a.exactValue?.getD 0, ?_⟩
    intro a b ha hb
    obtain ⟨x, hx⟩ := exists_exactValue ha.family ha.exact
    obtain ⟨y, hy⟩ := exists_exactValue hb.family hb.exact
    simp only [relate?_exact hx hy, hx, hy, Option.getD_some]
  | boolean =>
    refine ⟨Bool, inferInstance, fun a => a == .boolean true, ?_⟩
    intro a b ha hb
    cases a <;> cases ha.family
    cases b <;> cases hb.family
    case boolean.refl.boolean.refl x y => cases x <;> cases y <;> rfl
  | dateTime | date | time =>
    -- The three types differ in the day or the time that they lack, but not in the comparison.
    refine ⟨Int, inferInstance, instant ctx, ?_⟩
    intro a b ha hb
    cases a <;> cases ha.family
    cases b <;> cases hb.family
    exact relate?_instant rfl rfl rfl nofun ha.stays hb.stays
  | yearMonthDuration =>
    refine ⟨Int, inferInstance, fun a => (a.durationParts?.getD (0, .zero)).1, ?_⟩
    intro a b ha hb
    cases a <;> cases ha.family
    cases b <;> cases hb.family
    rfl
  | dayTimeDuration =>
    refine ⟨ℚ, inferInstance, fun a => (a.durationParts?.getD (0, .zero)).2.value, ?_⟩
    intro a b ha hb
    cases a <;> cases ha.family
    cases b <;> cases hb.family
    case dayTimeDuration.refl.dayTimeDuration.refl s t =>
      have hrelate : relate? (.dayTimeDuration s) (.dayTimeDuration t) ctx =
          some (.ok (.ordered (some (s.compare t)))) := rfl
      rw [hrelate, Decimal.compare_eq_value, ← Decimal.value_normalize s,
        ← Decimal.value_normalize t]
      rfl
  | _ =>
    -- No type is of a family that is named for one of these.
    refine ⟨Unit, inferInstance, fun _ => (), ?_⟩
    intro a b ha _
    cases a <;> cases ha.family

/-- The operator `le` follows the places. -/
theorem le_iff_of_compare {α : Type} [LinearOrder α] {x y : α}
    (h : relate? a b ctx = some (.ok (.ordered (some (compare x y))))) :
    compareBy .le a b ctx = .ok true ↔ x ≤ y := by
  rw [compareBy_of_ordered h, Except.ok.injEq, ← compare_le_iff_le]
  exact bne_iff_ne

/-- Values that `le` holds for are of one family. -/
theorem sameFamily_of_le (h : Meeting ctx a b) (hle : compareBy .le a b ctx = .ok true) :
    SameFamily a b := by
  cases h with
  | ordered o hfamily _ _ => exact hfamily
  | equality e _ h =>
    have hnone : decideOp .le (.equality e) = none := rfl
    obtain ⟨e', he, -⟩ := refused_of_relation h hnone
    rw [he] at hle
    cases hle
  | apart _ h =>
    obtain ⟨e', he, -⟩ := refused_of_none h .le
    rw [he] at hle
    cases hle

/-! ### One preorder -/

/-- Every operator has an answer: one of `lt`, `eq` and `gt` holds, or none beside NaN, and `le`
    and `ge` say that one of two holds. -/
def InOrder (ctx : ValueContext) (a b : Atomic) : Prop :=
  ∃ lt eq gt : Bool,
    compareBy .lt a b ctx = .ok lt ∧ compareBy .eq a b ctx = .ok eq ∧
      compareBy .gt a b ctx = .ok gt ∧ compareBy .le a b ctx = .ok (lt || eq) ∧
      compareBy .ge a b ctx = .ok (gt || eq) ∧
      [lt, eq, gt].count true = if a.isNaN || b.isNaN then 0 else 1

/-- What the operators say of two values. -/
structure Coherent (ctx : ValueContext) (a b : Atomic) : Prop where
  /-- The converse operator agrees on the exchanged values. -/
  converse (op : ComparisonOp) :
    Agree (compareBy op a b ctx) (compareBy op.converse b a ctx)
  /-- Two values differ exactly if they are not equal. -/
  negation : Agree (compareBy .ne a b ctx) ((compareBy .eq a b ctx).map not)
  /-- Values of one family have an order. -/
  ordered (h : SameFamily a b) : InOrder ctx a b
  /-- Outside of the families values have no order. -/
  unordered (h : ¬ SameFamily a b) (op : ComparisonOp) (hop : op.isEquality = false) :
    Refused (compareBy op a b ctx)
  /-- Any two values of a family are in order, apart from floating-point numbers. -/
  total (h : SameFamily a b) (ha : a.isExact = true) (hb : b.isExact = true) :
    compareBy .le a b ctx = .ok true ∨ compareBy .le b a ctx = .ok true
  /-- Integers and decimals compare as the rational numbers that they are. -/
  byValue {x y : ℚ} (hx : a.exactValue? = some x) (hy : b.exactValue? = some y)
    (op : ComparisonOp) : compareBy op a b ctx = .ok (op.holds (some (compare x y)))

theorem inOrder_of_relation (h : relate? a b ctx = some (.ok (.ordered o)))
    (hnan : o = none ↔ a.isNaN = true ∨ b.isNaN = true) : InOrder ctx a b := by
  have hanswer := compareBy_of_ordered h
  rw [← Bool.or_eq_true] at hnan
  refine ⟨_, _, _, hanswer .lt, hanswer .eq, hanswer .gt, ?_, ?_, ?_⟩
  · rw [hanswer]
    rcases o with _ | _ | _ | _ <;> rfl
  · rw [hanswer]
    rcases o with _ | _ | _ | _ <;> rfl
  · cases o with
    | none =>
      rw [if_pos (hnan.1 rfl)]
      rfl
    | some o =>
      rw [if_neg (mt hnan.2 nofun)]
      cases o <;> rfl

/-- Floating-point numbers apart, one of two values of a family is at most the other. -/
theorem le_total_of_sameFamily (h : SameFamily a b) (ha : a.isExact = true)
    (hb : b.isExact = true) (hsa : a.staysInCalendar ctx = true)
    (hsb : b.staysInCalendar ctx = true) :
    compareBy .le a b ctx = .ok true ∨ compareBy .le b a ctx = .ok true := by
  obtain ⟨f, hfa, hfb⟩ := h
  obtain ⟨α, _, rank, hrank⟩ := exists_rank ctx f
  rw [le_iff_of_compare (hrank a b ⟨hfa, ha, hsa⟩ ⟨hfb, hb, hsb⟩),
    le_iff_of_compare (hrank b a ⟨hfb, hb, hsb⟩ ⟨hfa, ha, hsa⟩)]
  exact le_total _ _

/-- Floating-point numbers apart, `le` passes from value to value. -/
theorem le_trans_of_isExact (hsa : a.staysInCalendar ctx = true)
    (hsb : b.staysInCalendar ctx = true) (hsc : c.staysInCalendar ctx = true)
    (ha : a.isExact = true) (hb : b.isExact = true) (hc : c.isExact = true)
    (hab : compareBy .le a b ctx = .ok true) (hbc : compareBy .le b c ctx = .ok true) :
    compareBy .le a c ctx = .ok true := by
  obtain ⟨f, hfa, hfb⟩ := sameFamily_of_le (meeting_of_staysInCalendar hsa hsb) hab
  obtain ⟨g, hgb, hfc⟩ := sameFamily_of_le (meeting_of_staysInCalendar hsb hsc) hbc
  -- The value between the two is of one family only.
  obtain rfl : f = g := Option.some.inj (hfb.symm.trans hgb)
  obtain ⟨α, _, rank, hrank⟩ := exists_rank ctx f
  have hpa : HasPlace ctx f a := ⟨hfa, ha, hsa⟩
  have hpb : HasPlace ctx f b := ⟨hfb, hb, hsb⟩
  have hpc : HasPlace ctx f c := ⟨hfc, hc, hsc⟩
  rw [le_iff_of_compare (hrank a b hpa hpb)] at hab
  rw [le_iff_of_compare (hrank b c hpb hpc)] at hbc
  rw [le_iff_of_compare (hrank a c hpa hpc)]
  exact hab.trans hbc

/-- The operators agree with one another on any values whose times stay in the calendar, and
    outside the floating-point types `le` is a total preorder of each family. -/
theorem comparison_coherent (ha : a.staysInCalendar ctx = true)
    (hb : b.staysInCalendar ctx = true) (hc : c.staysInCalendar ctx = true) :
    Coherent ctx a b ∧
      (a.isExact = true → b.isExact = true → c.isExact = true →
        compareBy .le a b ctx = .ok true → compareBy .le b c ctx = .ok true →
          compareBy .le a c ctx = .ok true) := by
  have hmeeting := meeting_of_staysInCalendar ha hb
  refine ⟨?_, le_trans_of_isExact ha hb hc⟩
  constructor
  case converse => exact hmeeting.agree_converse
  case negation => exact hmeeting.agree_negation
  case ordered =>
    intro hfamily
    cases hmeeting with
    | ordered o _ h hnan => exact inOrder_of_relation h hnan
    | equality _ hno _ | apart hno _ => exact absurd hfamily hno
  case unordered =>
    intro hfamily op hop
    cases hmeeting with
    | ordered _ hyes _ _ => exact absurd hyes hfamily
    | equality e _ h =>
      apply refused_of_relation h
      simp only [decideOp, hop, Bool.false_eq_true, if_false]
    | apart _ h => exact refused_of_none h op
  case total =>
    intro hfamily hea heb
    exact le_total_of_sameFamily hfamily hea heb ha hb
  case byValue =>
    intro x y hx hy op
    exact compareBy_of_ordered (relate?_exact hx hy) op

/-- Noon an hour ahead of UTC, half past one in the zone of the context and noon in UTC, in the
    order of their instants. -/
theorem comparison_coherent_zones :
    let ctx : ValueContext := ⟨⟨7200, by decide, by decide⟩, []⟩
    let a : Atomic := .time ⟨43200 * nanosPerSecond, by decide⟩ (some ⟨3600, by decide, by decide⟩)
    let b : Atomic := .time ⟨48600 * nanosPerSecond, by decide⟩ none
    let c : Atomic := .time ⟨43200 * nanosPerSecond, by decide⟩ (some .utc)
    Coherent ctx a b ∧ compareBy .le a b ctx = .ok true ∧ compareBy .le b c ctx = .ok true ∧
      compareBy .le a c ctx = .ok true := by
  intro ctx a b c
  have ha : a.staysInCalendar ctx = true := by decide +kernel
  have hb : b.staysInCalendar ctx = true := by decide +kernel
  have hc : c.staysInCalendar ctx = true := by decide +kernel
  have hab : compareBy .le a b ctx = .ok true := by decide +kernel
  have hbc : compareBy .le b c ctx = .ok true := by decide +kernel
  obtain ⟨hcoherent, htrans⟩ := comparison_coherent ha hb hc
  exact ⟨hcoherent, hab, hbc, htrans rfl rfl rfl hab hbc⟩

end Atomic

end XPathData
