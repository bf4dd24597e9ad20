import XPathData.Library.Extremum
import XPathData.Proofs.Atomic.ResultType
import XPathData.Proofs.Library.Distinct

/-! # Least and greatest values

  An extremum is found in one pass that keeps the best value so far and the common type of the
  numbers so far. Only the best value is compared with the next one, but as all values before are
  of its family, a value of another family is noticed wherever it stands. The values of a family
  are ranked, so the best value is at its end ahead of all others, and the promotion to the common
  type does not move it.

  * `Library.RanksBy` — ranks in the order that is asked for
  * `Library.Extremum.Of` — what is known of the values seen so far
  * `Library.Extremum.exists_join`, `Library.Extremum.join_fails` — one more value
  * `Library.exists_extremum`, `Library.extremum_fails` — all values
  * `Library.FindsExtremum`, `Library.SameResult` — the result of a function, and of two calls
  * `Library.least_and_greatest` — the two functions
-/

namespace XPathData.Library

open Atomic

variable {α : Type} [LinearOrder α] {rank : Atomic → α} {wanted : Ordering} {ctx : ValueContext}
  {f : AtomicType} {a b : Atomic} {seen : List Atomic} {e : Extremum}

/-! ### Ranks -/

/-- The operator that holds between an extremum and any value. -/
def towards : Ordering → ComparisonOp
  | .gt => .ge
  | _ => .le

/-- The values of a family are compared by their ranks, of which the lowest are those that come
    first in the order that is asked for. -/
def RanksBy (wanted : Ordering) (ctx : ValueContext) (f : AtomicType) (rank : Atomic → α) : Prop :=
  ∀ a b, HasPlace ctx f a → HasPlace ctx f b →
    ∃ o, relate? a b ctx = some (.ok (.ordered (some o))) ∧
      (o = wanted ↔ rank a < rank b) ∧ (o = .eq ↔ rank a = rank b)

theorem exists_ranksBy (ctx : ValueContext) (f : AtomicType) (h : wanted ≠ .eq) :
    ∃ (α : Type) (_ : LinearOrder α) (rank : Atomic → α), RanksBy wanted ctx f rank := by
  obtain ⟨α, _, rank, hrank⟩ := exists_rank ctx f
  cases wanted with
  | lt =>
    refine ⟨α, inferInstance, rank, fun a b ha hb => ⟨_, hrank a b ha hb, ?_, ?_⟩⟩
    · exact compare_lt_iff_lt
    · exact compare_eq_iff_eq
  | eq => exact absurd rfl h
  | gt =>
    -- The greatest values come first if the order is turned.
    refine ⟨αᵒᵈ, inferInstance, fun a => OrderDual.toDual (rank a),
      fun a b ha hb => ⟨_, hrank a b ha hb, ?_, ?_⟩⟩
    · exact compare_gt_iff_gt
    · exact compare_eq_iff_eq

namespace RanksBy

theorem orderOf (h : RanksBy wanted ctx f rank) (ha : HasPlace ctx f a) (hb : HasPlace ctx f b) :
    ∃ o, Atomic.orderOf a b ctx = .ok (some o) ∧ (o = wanted ↔ rank a < rank b) := by
  obtain ⟨o, ho, hlt, -⟩ := h a b ha hb
  refine ⟨o, ?_, hlt⟩
  rw [Atomic.orderOf, ho]
  rfl

theorem equal_iff (h : RanksBy wanted ctx f rank) (ha : HasPlace ctx f a)
    (hb : HasPlace ctx f b) : compareBy .eq a b ctx = .ok true ↔ rank a = rank b := by
  obtain ⟨o, ho, -, heq⟩ := h a b ha hb
  rw [compareBy_of_ordered ho, ← heq]
  show Except.ok (o == .eq) = .ok true ↔ o = .eq
  rw [Except.ok.injEq, beq_iff_eq]

theorem leads_iff (h : RanksBy wanted ctx f rank) (hwanted : wanted ≠ .eq)
    (ha : HasPlace ctx f a) (hb : HasPlace ctx f b) :
    compareBy (towards wanted) a b ctx = .ok true ↔ rank a ≤ rank b := by
  obtain ⟨o, ho, hlt, heq⟩ := h a b ha hb
  rw [compareBy_of_ordered ho, le_iff_lt_or_eq, ← hlt, ← heq, Except.ok.injEq]
  cases wanted with
  | lt | gt => cases o <;> decide
  | eq => exact absurd rfl hwanted

end RanksBy

/-! ### The common type -/

/-- The common type of values of a family: none for values that are no numbers, and for numbers a
    type that all of them promote to, or the one type that all of them have. -/
def IsCommon (f : AtomicType) (seen : List Atomic) : Option AtomicType → Prop
  | none => f ≠ .decimal
  | some t => f = .decimal ∧ t.isNumeric = true ∧ ∃ r, t.rank? = some r ∧ r ≤ 1 ∧
    (∀ a ∈ seen, ∃ q, a.type.rank? = some q ∧ q ≤ r) ∧
    (t = .ofNumericRank r ∨ ∀ a ∈ seen, a.type = t)

theorem isNumeric_iff (ha : a.type.family? = some f) : a.isNumeric = true ↔ f = .decimal := by
  cases a <;> cases ha <;> simp [isNumeric, type, AtomicType.isNumeric]

/-- Numbers that are neither floats nor doubles have one of the two lower ranks. -/
theorem exists_rank_le (ha : a.isExact = true) (hnumeric : a.isNumeric = true) :
    ∃ q, a.type.rank? = some q ∧ q ≤ 1 := by
  cases a with
  | integer k n => exact ⟨0, rfl, by decide⟩
  | decimal d => exact ⟨1, rfl, le_refl 1⟩
  | float x | double x => cases ha
  | _ => cases hnumeric

theorem isCommon_single (ha : HasPlace ctx f a) :
    IsCommon f [a] (if a.isNumeric then some a.type else none) := by
  split
  · next hnumeric =>
    obtain ⟨q, hq, hle⟩ := exists_rank_le ha.exact hnumeric
    refine ⟨(isNumeric_iff ha.family).1 hnumeric, hnumeric, q, hq, hle, ?_, .inr ?_⟩
    · intro b hb
      rw [List.mem_singleton.1 hb]
      exact ⟨q, hq, le_refl q⟩
    · intro b hb
      rw [List.mem_singleton.1 hb]
  · next hnumeric => exact fun hf => hnumeric ((isNumeric_iff ha.family).2 hf)

/-- The types of the two lower ranks are types of numbers and have these ranks. -/
theorem rank?_ofNumericRank {n : Nat} (h : n ≤ 1) :
    (AtomicType.ofNumericRank n).rank? = some n ∧
      (AtomicType.ofNumericRank n).isNumeric = true := by
  obtain rfl | rfl : n = 0 ∨ n = 1 := by omega
  · exact ⟨rfl, rfl⟩
  · exact ⟨rfl, rfl⟩

/-- One more number leads to the higher of the two types. -/
theorem exists_joinType (h : IsCommon f seen e.numeric) (ha : HasPlace ctx f a) :
    ∃ t, e.joinType a = .ok t ∧ IsCommon f (a :: seen) t := by
  unfold Extremum.joinType
  cases hcommon : e.numeric with
  | none =>
    rw [hcommon] at h
    have hno : ¬ a.isNumeric = true := fun hnumeric => h ((isNumeric_iff ha.family).1 hnumeric)
    exact ⟨none, if_neg hno, h⟩
  | some t =>
    rw [hcommon] at h
    obtain ⟨hf, ht, r, hr, hle, hall, -⟩ := h
    have hnumeric := (isNumeric_iff ha.family).2 hf
    obtain ⟨q, hq, hqle⟩ := exists_rank_le ha.exact hnumeric
    have hjoin : AtomicType.common? t a.type = some (.ofNumericRank (max r q)) := by
      unfold AtomicType.common?
      rw [hr, hq]
      exact if_pos (Bool.and_eq_true_iff.2 ⟨ht, hnumeric⟩)
    have hmax : max r q ≤ 1 := max_le hle hqle
    obtain ⟨hrank, hnumber⟩ := rank?_ofNumericRank hmax
    refine ⟨some (.ofNumericRank (max r q)), ?_, hf, hnumber, max r q, hrank, hmax, ?_, .inl rfl⟩
    · rw [if_pos hnumeric, ← hjoin]
    · intro b hb
      rcases List.mem_cons.1 hb with rfl | hb
      · exact ⟨q, hq, le_max_right r q⟩
      · obtain ⟨p, hp, hpr⟩ := hall b hb
        exact ⟨p, hp, hpr.trans (le_max_left r q)⟩

/-- A value keeps its number when it is promoted to the common type. -/
theorem exists_promote {t : AtomicType} (h : IsCommon f seen (some t)) (ha : a ∈ seen)
    (hplace : HasPlace ctx f a) :
    ∃ v z, a.promote? t = some v ∧ a.exactValue? = some z ∧ v.exactValue? = some z := by
  obtain ⟨hf, -, r, hr, hle, hall, hsame⟩ := h
  have hnumeric := (isNumeric_iff hplace.family).2 hf
  rcases hsame with rfl | hsame
  · obtain ⟨q, hq, hqr⟩ := hall a ha
    obtain ⟨v, hv, -, hexact⟩ := exists_promoted hnumeric hq hqr (by omega)
    obtain ⟨z, hz, hvz⟩ := hexact hle
    exact ⟨v, z, hv, hz, hvz⟩
  · obtain ⟨z, hz⟩ := exists_exactValue (hf ▸ hplace.family) hplace.exact
    exact ⟨a, z, if_pos (hsame a ha), hz, hz⟩

/-! ### One value more -/

/-- The failure of values that are not of one family. -/
def Unordered {β : Type} (r : Outcome β) : Prop :=
  ∃ err : Error, r = .error (.error err) ∧ err.code = ErrorCode.invalidArgument.name

/-- What is known of the values seen so far: one of them that is ahead of them all, and their
    common type. No value is NaN. -/
structure Extremum.Of (ctx : ValueContext) (f : AtomicType) (rank : Atomic → α)
    (seen : List Atomic) (e : Extremum) : Prop where
  place : ∀ a ∈ seen, HasPlace ctx f a
  mem : e.best ∈ seen
  ahead : ∀ a ∈ seen, rank e.best ≤ rank a
  common : IsCommon f seen e.numeric
  noNaN : e.nan = none

theorem isNaN_eq_false (h : a.isExact = true) : a.isNaN = false := by
  cases a with
  | float x | double x => cases h
  | _ => rfl

/-- A value whose time stays in the calendar, and which is of another family or of none, has no
    order with the first one. -/
theorem orderOf_fails (ha : a.staysInCalendar ctx = true) (hb : b.staysInCalendar ctx = true)
    (hfamily : ¬ SameFamily a b) (err : Error) :
    ((Atomic.orderOf a b ctx).mapError fun _ => err) = .error (.error err) := by
  unfold Atomic.orderOf
  cases meeting_of_staysInCalendar ha hb with
  | ordered _ hyes _ _ => exact absurd hyes hfamily
  | equality _ _ h =>
    rw [h]
    rfl
  | apart _ h =>
    rw [h]
    rfl

namespace Extremum

theorem exists_ofValue (hrank : RanksBy wanted ctx f rank) (ha : HasPlace ctx f a) :
    ∃ e, ofValue a ctx = .ok e ∧ e.Of ctx f rank [a] := by
  obtain ⟨o, ho, -⟩ := hrank.orderOf ha ha
  refine ⟨⟨a, if a.isNumeric then some a.type else none, if a.isNaN then some a else none⟩, ?_, ?_⟩
  · unfold ofValue
    rw [ho]
    rfl
  · constructor
    case place =>
      intro b hb
      rwa [List.mem_singleton.1 hb]
    case mem => exact List.mem_singleton.2 rfl
    case ahead =>
      intro b hb
      rw [List.mem_singleton.1 hb]
    case common => exact isCommon_single ha
    case noNaN => exact if_neg (Bool.eq_false_iff.1 (isNaN_eq_false ha.exact))

/-- The first value alone must be of a family. -/
theorem ofValue_fails (ha : a.staysInCalendar ctx = true) (hfamily : a.type.family? = none) :
    Unordered (ofValue a ctx) := by
  refine ⟨unordered a a, ?_, rfl⟩
  unfold ofValue
  rw [orderOf_fails ha ha (not_sameFamily hfamily)]
  rfl

/-- One more value of the family. -/
theorem exists_join (hrank : RanksBy wanted ctx f rank) (h : e.Of ctx f rank seen)
    (ha : HasPlace ctx f a) :
    ∃ e', join wanted ctx e a = .ok e' ∧ e'.Of ctx f rank (a :: seen) := by
  obtain ⟨t, ht, hcommon⟩ := exists_joinType h.common ha
  obtain ⟨o, ho, hahead⟩ := hrank.orderOf ha (h.place _ h.mem)
  have hnan : e.nan.or (if a.isNaN then some a else none) = none := by
    rw [h.noNaN, isNaN_eq_false ha.exact]
    rfl
  refine ⟨⟨if some o = some wanted then a else e.best, t, none⟩, ?_, ?_⟩
  · unfold join
    rw [ht, ho, hnan]
    rfl
  · constructor
    case place => exact List.forall_mem_cons.2 ⟨ha, h.place⟩
    case mem =>
      show (if some o = some wanted then a else e.best) ∈ _
      split
      · exact List.mem_cons_self
      · exact List.mem_cons_of_mem a h.mem
    case ahead =>
      show ∀ b ∈ a :: seen, rank (if some o = some wanted then a else e.best) ≤ rank b
      split
      · next hbetter =>
        -- The new value is ahead of the best one, and so of all others.
        have hlt := hahead.1 (Option.some.inj hbetter)
        refine List.forall_mem_cons.2 ⟨le_refl _, fun b hb => ?_⟩
        exact hlt.le.trans (h.ahead b hb)
      · next hworse =>
        have hle : ¬ rank a < rank e.best := fun hlt => hworse (congrArg some (hahead.2 hlt))
        exact List.forall_mem_cons.2 ⟨not_lt.1 hle, h.ahead⟩
    case common => exact hcommon
    case noNaN => rfl

/-- A value that is not of the family, wherever it is met. -/
theorem join_fails (h : e.Of ctx f rank seen) (ha : a.staysInCalendar ctx = true)
    (hfamily : a.type.family? ≠ some f) : Unordered (join wanted ctx e a) := by
  have hbest := h.place _ h.mem
  have hapart : ¬ SameFamily a e.best := by
    apply not_sameFamily_of_ne
    rwa [hbest.family]
  unfold join
  cases ht : e.joinType a with
  | error err =>
    refine ⟨err, rfl, ?_⟩
    unfold joinType at ht
    split at ht
    · split at ht
      · cases ht
      · cases ht
        rfl
    · cases ht
  | ok t =>
    refine ⟨unordered a e.best, ?_, rfl⟩
    rw [orderOf_fails ha hbest.stays hapart]
    rfl

/-- The value of an extremum is worth what the best value is. -/
theorem exists_value (hrank : RanksBy wanted ctx f rank) (h : e.Of ctx f rank seen) :
    HasPlace ctx f e.value ∧ rank e.value = rank e.best := by
  have hbest := h.place _ h.mem
  unfold value
  rw [h.noNaN, Option.getD_none]
  cases hcommon : e.numeric with
  | none => exact ⟨hbest, rfl⟩
  | some t =>
    have hcommon' := h.common
    rw [hcommon] at hcommon'
    obtain ⟨v, z, hv, hz, hvz⟩ := exists_promote hcommon' h.mem hbest
    dsimp only
    rw [hv, Option.getD_some]
    have hplace : HasPlace ctx f v := by
      rw [hcommon'.1]
      cases v with
      | integer k n | decimal d => exact ⟨rfl, rfl, rfl⟩
      | _ => cases hvz
    refine ⟨hplace, (hrank.equal_iff hplace hbest).1 ?_⟩
    rw [compareBy_of_ordered (relate?_exact hvz hz), compare_eq_iff_eq.2 rfl]
    rfl

end Extremum

/-! ### All values -/

/-- The values have times that stay in the calendar, and they are neither floating-point numbers
    nor untyped. -/
def Typed (ctx : ValueContext) (values : List Atomic) : Prop :=
  ∀ a ∈ values, a.isExact = true ∧ a.type ≠ .untypedAtomic ∧ a.staysInCalendar ctx = true

/-- All values are of one family. -/
def OneFamily (values : List Atomic) : Prop := ∃ f, ∀ a ∈ values, a.type.family? = some f

/-- The rest of the values, all of them of the family. -/
theorem exists_foldlM_join (hrank : RanksBy wanted ctx f rank) {l : List Atomic}
    (h : e.Of ctx f rank seen) (hl : ∀ a ∈ l, HasPlace ctx f a) :
    ∃ e', l.foldlM (Extremum.join wanted ctx) e = .ok e' ∧
      e'.Of ctx f rank (l.reverse ++ seen) := by
  -- The invariant is carried along the list, with the values seen in front of it.
  induction l generalizing e seen with
  | nil => exact ⟨e, rfl, h⟩
  | cons a l ih =>
    obtain ⟨ha, hl⟩ := List.forall_mem_cons.1 hl
    obtain ⟨e', hjoin, he'⟩ := Extremum.exists_join hrank h ha
    obtain ⟨e'', hfold, he''⟩ := ih he' hl
    refine ⟨e'', ?_, ?_⟩
    · rw [List.foldlM_cons, hjoin]
      exact hfold
    · rwa [List.reverse_cons, List.append_assoc]

/-- The rest of the values, one of them of another family. -/
theorem foldlM_join_fails (hrank : RanksBy wanted ctx f rank) {l : List Atomic}
    (h : e.Of ctx f rank seen) (hl : Typed ctx l) (hother : ∃ a ∈ l, a.type.family? ≠ some f) :
    Unordered (l.foldlM (Extremum.join wanted ctx) e) := by
  induction l generalizing e seen with
  | nil =>
    obtain ⟨a, ha, -⟩ := hother
    cases ha
  | cons a l ih =>
    obtain ⟨⟨hexact, -, hstays⟩, hl⟩ := List.forall_mem_cons.1 hl
    rw [List.foldlM_cons]
    by_cases hfamily : a.type.family? = some f
    · obtain ⟨e', hjoin, he'⟩ := Extremum.exists_join hrank h ⟨hfamily, hexact, hstays⟩
      obtain ⟨b, hb, hbother⟩ := hother
      have hbl : b ∈ l := by
        rcases List.mem_cons.1 hb with rfl | hb
        · exact absurd hfamily hbother
        · exact hb
      rw [hjoin]
      exact ih he' hl ⟨b, hbl, hbother⟩
    · have hfails : Unordered (Extremum.join wanted ctx e a) :=
        Extremum.join_fails h hstays hfamily
      obtain ⟨err, herr, hcode⟩ := hfails
      refine ⟨err, ?_, hcode⟩
      rw [herr]
      rfl

theorem extremum_cons (a : Atomic) (l : List Atomic) :
    extremum wanted ctx (a :: l) = (do
      return some (← l.foldlM (Extremum.join wanted ctx) (← Extremum.ofValue a ctx)).value) :=
  rfl

/-- The extremum of values of one family: it has the rank of one of them, which is ahead of
    all. -/
theorem exists_extremum (hrank : RanksBy wanted ctx f rank) {values : List Atomic}
    (hne : values ≠ []) (h : ∀ a ∈ values, HasPlace ctx f a) :
    ∃ r, extremum wanted ctx values = .ok (some r) ∧ HasPlace ctx f r ∧
      (∃ a ∈ values, rank r = rank a) ∧ ∀ a ∈ values, rank r ≤ rank a := by
  obtain ⟨a, l, rfl⟩ := List.exists_cons_of_ne_nil hne
  obtain ⟨ha, hl⟩ := List.forall_mem_cons.1 h
  obtain ⟨e, hfirst, he⟩ := Extremum.exists_ofValue hrank ha
  obtain ⟨e', hfold, he'⟩ := exists_foldlM_join hrank he hl
  obtain ⟨hplace, hbest⟩ := Extremum.exists_value hrank he'
  have hmem (b : Atomic) : b ∈ l.reverse ++ [a] ↔ b ∈ a :: l := by
    rw [← List.reverse_cons, List.mem_reverse]
  refine ⟨e'.value, ?_, hplace, ⟨e'.best, (hmem _).1 he'.mem, hbest⟩, ?_⟩
  · rw [extremum_cons, hfirst]
    show (l.foldlM (Extremum.join wanted ctx) e >>= fun e => pure (some e.value)) = _
    rw [hfold]
    rfl
  · intro b hb
    rw [hbest]
    exact he'.ahead b ((hmem b).2 hb)

/-- There is no extremum of values that are not of one family. -/
theorem extremum_fails (hwanted : wanted ≠ .eq) {values : List Atomic} (hne : values ≠ [])
    (h : Typed ctx values) (hfamily : ¬ OneFamily values) :
    Unordered (extremum wanted ctx values) := by
  obtain ⟨a, l, rfl⟩ := List.exists_cons_of_ne_nil hne
  obtain ⟨⟨hexact, -, hstays⟩, hl⟩ := List.forall_mem_cons.1 h
  rw [extremum_cons]
  cases hf : a.type.family? with
  | none =>
    obtain ⟨err, herr, hcode⟩ := Extremum.ofValue_fails hstays hf
    refine ⟨err, ?_, hcode⟩
    rw [herr]
    rfl
  | some f =>
    obtain ⟨α, _, rank, hrank⟩ := exists_ranksBy ctx f hwanted
    obtain ⟨e, hfirst, he⟩ := Extremum.exists_ofValue hrank ⟨hf, hexact, hstays⟩
    have hother : ∃ b ∈ l, b.type.family? ≠ some f := by
      by_contra hall
      push Not at hall
      exact hfamily ⟨f, List.forall_mem_cons.2 ⟨hf, hall⟩⟩
    obtain ⟨err, herr, hcode⟩ := foldlM_join_fails hrank he hl hother
    refine ⟨err, ?_, hcode⟩
    rw [hfirst]
    show (l.foldlM (Extremum.join wanted ctx) e >>= fun e => pure (some e.value)) = _
    rw [herr]
    rfl

/-! ### The functions -/

theorem typedOperand_of_ne (h : a.type ≠ .untypedAtomic) : typedOperand a = .ok a := by
  unfold typedOperand
  split
  · exact absurd rfl h
  · rfl

/-- Values that are typed enter as they are. -/
theorem aggregated_values {call : CallContext} {values : List Atomic}
    (h : Typed call.values values) : aggregated (values.map .atomic) call = .ok values := by
  have hmap : values.mapM typedOperand = .ok values := by
    induction values with
    | nil => rfl
    | cons a l ih =>
      obtain ⟨⟨-, hne, -⟩, hl⟩ := List.forall_mem_cons.1 h
      rw [List.mapM_cons, typedOperand_of_ne hne, ih hl]
      rfl
  show (Argument.atoms (values.map .atomic) call >>= fun l =>
    (liftM (l.mapM typedOperand) : Call (List Atomic)) call) = _
  rw [atoms_values]
  show (liftM (values.mapM typedOperand) : Call (List Atomic)) call = _
  rw [hmap]
  rfl

theorem extremumOf_eq {call : CallContext} {uri : Option (List Item)} {values : List Atomic}
    (huri : Argument.collation uri call = .ok ()) (h : Typed call.values values) :
    extremumOf wanted (values.map .atomic) uri call =
      (extremum wanted call.values values).map fun r => (r.map Argument.result).getD [] := by
  show (Argument.collation uri call >>= fun _ => aggregated (values.map .atomic) call >>= fun l =>
    extremum wanted call.values l >>= fun r => pure ((r.map Argument.result).getD [])) = _
  rw [huri, aggregated_values h]
  show (extremum wanted call.values values >>= fun r => pure ((r.map Argument.result).getD [])) = _
  cases extremum wanted call.values values <;> rfl

/-- The result of a function that finds the value which the operator puts before all others: a
    single value that is equal to one of them and before all of them. It fails where the values
    are not of one family, and only there. -/
structure FindsExtremum (op : ComparisonOp) (ctx : ValueContext) (values : List Atomic)
    (result : Outcome (List Item)) : Prop where
  fails : ¬ OneFamily values → Unordered result
  finds : OneFamily values → ∃ r, result = .ok [.atomic r] ∧
    (∃ a ∈ values, compareBy .eq r a ctx = .ok true) ∧
    ∀ a ∈ values, compareBy op r a ctx = .ok true

/-- Two results are one up to equality of values: both fail, or both are a single value. -/
def SameResult (ctx : ValueContext) (result result' : Outcome (List Item)) : Prop :=
  (Unordered result ∧ Unordered result') ∨
    ∃ r r', result = .ok [.atomic r] ∧ result' = .ok [.atomic r'] ∧
      compareBy .eq r r' ctx = .ok true

section

variable {call : CallContext} {uri : Option (List Item)} {values : List Atomic}

theorem extremumOf_fails (hwanted : wanted ≠ .eq) (hne : values ≠ [])
    (h : Typed call.values values) (huri : Argument.collation uri call = .ok ())
    (hfamily : ¬ OneFamily values) :
    Unordered (extremumOf wanted (values.map .atomic) uri call) := by
  obtain ⟨err, herr, hcode⟩ := extremum_fails hwanted hne h hfamily
  refine ⟨err, ?_, hcode⟩
  rw [extremumOf_eq huri h, herr]
  rfl

theorem exists_extremumOf (hrank : RanksBy wanted call.values f rank) (hne : values ≠ [])
    (h : Typed call.values values) (huri : Argument.collation uri call = .ok ())
    (hf : ∀ a ∈ values, a.type.family? = some f) :
    ∃ r, extremumOf wanted (values.map .atomic) uri call = .ok [.atomic r] ∧
      HasPlace call.values f r ∧ (∃ a ∈ values, HasPlace call.values f a ∧ rank r = rank a) ∧
      ∀ a ∈ values, HasPlace call.values f a ∧ rank r ≤ rank a := by
  have hplaces (a : Atomic) (ha : a ∈ values) : HasPlace call.values f a :=
    ⟨hf a ha, (h a ha).1, (h a ha).2.2⟩
  obtain ⟨r, hr, hplace, ⟨a, ha, heq⟩, hahead⟩ := exists_extremum hrank hne hplaces
  refine ⟨r, ?_, hplace, ⟨a, ha, hplaces a ha, heq⟩, fun a ha => ⟨hplaces a ha, hahead a ha⟩⟩
  rw [extremumOf_eq huri h, hr]
  rfl

theorem findsExtremum (hwanted : wanted ≠ .eq) (hne : values ≠ []) (h : Typed call.values values)
    (huri : Argument.collation uri call = .ok ()) :
    FindsExtremum (towards wanted) call.values values
      (extremumOf wanted (values.map .atomic) uri call) where
  fails := extremumOf_fails hwanted hne h huri
  finds := by
    rintro ⟨f, hf⟩
    obtain ⟨α, _, rank, hrank⟩ := exists_ranksBy call.values f hwanted
    obtain ⟨r, hr, hplace, ⟨a, ha, haplace, heq⟩, hahead⟩ := exists_extremumOf hrank hne h huri hf
    refine ⟨r, hr, ⟨a, ha, (hrank.equal_iff hplace haplace).2 heq⟩, fun b hb => ?_⟩
    obtain ⟨hbplace, hle⟩ := hahead b hb
    exact (hrank.leads_iff hwanted hplace hbplace).2 hle

/-- The extremum of the same values in another sequence. -/
theorem sameResult_of_perm {permuted : List Atomic} (hperm : permuted.Perm values)
    (hwanted : wanted ≠ .eq) (hne : values ≠ []) (h : Typed call.values values)
    (huri : Argument.collation uri call = .ok ()) :
    SameResult call.values (extremumOf wanted (values.map .atomic) uri call)
      (extremumOf wanted (permuted.map .atomic) uri call) := by
  have hne' : permuted ≠ [] := fun hnil => hne (List.Perm.nil_eq (hnil ▸ hperm)).symm
  have h' : Typed call.values permuted := fun a ha => h a (hperm.mem_iff.1 ha)
  by_cases hfamily : OneFamily values
  · obtain ⟨f, hf⟩ := hfamily
    have hf' : ∀ a ∈ permuted, a.type.family? = some f := fun a ha => hf a (hperm.mem_iff.1 ha)
    obtain ⟨α, _, rank, hrank⟩ := exists_ranksBy call.values f hwanted
    obtain ⟨r, hr, hplace, ⟨a, ha, -, heq⟩, hahead⟩ := exists_extremumOf hrank hne h huri hf
    obtain ⟨r', hr', hplace', ⟨b, hb, -, heq'⟩, hahead'⟩ :=
      exists_extremumOf hrank hne' h' huri hf'
    -- Each of the two has the rank of a value that the other one is ahead of.
    have hle : rank r ≤ rank r' := heq' ▸ (hahead b (hperm.mem_iff.1 hb)).2
    have hge : rank r' ≤ rank r := heq ▸ (hahead' a (hperm.mem_iff.2 ha)).2
    exact .inr ⟨r, r', hr, hr', (hrank.equal_iff hplace hplace').2 (le_antisymm hle hge)⟩
  · have hfamily' : ¬ OneFamily permuted := by
      rintro ⟨f, hf⟩
      exact hfamily ⟨f, fun a ha => hf a (hperm.mem_iff.2 ha)⟩
    exact .inl ⟨extremumOf_fails hwanted hne h huri hfamily,
      extremumOf_fails hwanted hne' h' huri hfamily'⟩

end

/-- Of values that are neither floating-point numbers nor untyped, and whose times stay in the
    calendar, the functions find the least and the greatest one if they are of one family and fail
    otherwise; the order of the values makes no difference. -/
theorem least_and_greatest (call : CallContext) (uri : Option (List Item)) (values : List Atomic)
    (hne : values ≠ []) (h : Typed call.values values)
    (huri : Argument.collation uri call = .ok ()) :
    FindsExtremum .le call.values values (least (values.map .atomic) uri call) ∧
      FindsExtremum .ge call.values values (greatest (values.map .atomic) uri call) ∧
      ∀ permuted : List Atomic, permuted.Perm values →
        SameResult call.values (least (values.map .atomic) uri call)
          (least (permuted.map .atomic) uri call) ∧
        SameResult call.values (greatest (values.map .atomic) uri call)
          (greatest (permuted.map .atomic) uri call) := by
  have hlt : Ordering.lt ≠ .eq := by decide
  have hgt : Ordering.gt ≠ .eq := by decide
  refine ⟨findsExtremum hlt hne h huri, findsExtremum hgt hne h huri, fun permuted hperm => ?_⟩
  exact ⟨sameResult_of_perm hperm hlt hne h huri, sameResult_of_perm hperm hgt hne h huri⟩

/-- A half, the greatest number of the widest type and a small negative one: what is found takes
    the common type of them all. -/
def numbersOfTypes : List Atomic :=
  [.decimal ⟨5, 1, by decide, by decide⟩,
    .integer .unsignedLong ⟨18446744073709551615, by decide, by decide⟩,
    .integer .short ⟨-3, by decide, by decide⟩]

theorem least_and_greatest_numbers :
    let call : CallContext := ⟨.empty .words, .standard⟩
    let values := numbersOfTypes.map Item.atomic
    (numbersOfTypes ≠ [] ∧ Typed call.values numbersOfTypes ∧
        Argument.collation none call = .ok ()) ∧
      least values none call = .ok [.atomic (.decimal ⟨-3, 0, by decide, by decide⟩)] ∧
      greatest values none call =
        .ok [.atomic (.decimal ⟨18446744073709551615, 0, by decide, by decide⟩)] ∧
      FindsExtremum .le call.values numbersOfTypes (least values none call) ∧
      FindsExtremum .ge call.values numbersOfTypes (greatest values none call) := by
  intro call values
  have hne : numbersOfTypes ≠ [] := by decide
  have htyped : Typed call.values numbersOfTypes := by
    unfold Typed
    decide +kernel
  have hfound := least_and_greatest call none numbersOfTypes hne htyped rfl
  exact ⟨⟨hne, htyped, rfl⟩, by decide +kernel, by decide +kernel, hfound.1, hfound.2.1⟩

end XPathData.Library
