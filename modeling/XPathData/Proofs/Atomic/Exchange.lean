import Mathlib.Data.String.Basic
import XPathData.Proofs.Atomic.Key
import XPathData.Proofs.Decimal.Double

/-! # Comparison with the operands exchanged

  The comparison of two values asks one question after the other about both, and decides by the
  first that suits them. What it finds does not depend on which value is named first: numbers
  meet in the same representation, times go to UTC in either order, and a pair without a common
  ground has none the other way round. So a converse operator on exchanged operands decides alike.

  * `Relation.swap` — how two values relate when they are exchanged
  * `Number.compare?_eq_none_iff` — only NaN leaves two numbers without an order
  * `Atomic.relate?_swap` — values relate the other way round as they do one way
-/

namespace XPathData

/-! ### Operands exchanged -/

/-- How two values relate when they are exchanged. -/
def Relation.swap : Relation → Relation
  | ordered o => ordered (o.map Ordering.swap)
  | equality e => equality e

/-- The converse operator makes of the exchanged relation what the operator makes of the first. -/
theorem Atomic.decideOp_converse (op : ComparisonOp) (r : Relation) :
    decideOp op.converse r.swap = decideOp op r := by
  cases r with
  | ordered o => rcases o with _ | _ | _ | _ <;> cases op <;> rfl
  | equality e => cases op <;> rfl

/-- Texts are compared by the order of strings. -/
theorem compareText_eq (s t : String) : compareText s t = compare s t :=
  (LinearOrder.compare_eq_compareOfLessAndEq s t).symm

theorem compareText_swap (s t : String) : compareText t s = (compareText s t).swap := by
  rw [compareText_eq, compareText_eq]
  exact Std.OrientedOrd.eq_swap

theorem Decimal.compare_swap (a b : Decimal) : b.compare a = (a.compare b).swap := by
  rw [compare_eq_value, compare_eq_value]
  exact Std.OrientedOrd.eq_swap

namespace Number

/-- Two numbers in their common representation, exchanged. -/
def Pair.swap : Pair → Pair
  | int a b => int b a
  | dec a b => dec b a
  | single a b => single b a
  | double a b => double b a

theorem unify_swap (x y : Number) : unify y x = (unify x y).swap := by
  cases x <;> cases y <;> rfl

theorem compare?_swap (x y : Number) : y.compare? x = (x.compare? y).map Ordering.swap := by
  unfold compare?
  rw [unify_swap]
  cases unify x y with
  | int m n => exact congrArg some Std.OrientedOrd.eq_swap
  | dec d e => exact congrArg some (Decimal.compare_swap d e)
  | single x y => exact Binary.compare?_swap x y
  | double x y => exact Binary.compare?_swap x y

/-- Only NaN leaves two numbers without an order. -/
theorem compare?_eq_none_iff {x y : Number} :
    x.compare? y = none ↔ x.isNaN = true ∨ y.isNaN = true := by
  cases x <;> cases y <;>
    simp [compare?, unify, toDouble, toSingle, Decimal.toSingle, isNaN,
      Binary.compare?_eq_none_iff]

end Number

namespace Atomic

variable {a b c : Atomic} {ctx : ValueContext} {op : ComparisonOp}

/-! ### Relations of exchanged operands -/

theorem relate?_eq_none (h : a.type.ground ≠ b.type.ground) : relate? a b ctx = none := by
  cases hr : relate? a b ctx with
  | none => rfl
  | some r => exact absurd (ground_of_relate? hr) h

/-- The way to UTC fails in one way only. -/
theorem toUtc_eq_error {t : DateTime} {zone : Option Offset} {e : Failure}
    (h : toUtc t zone ctx = .error e) : e = .outOfCalendar := by
  unfold toUtc at h
  split at h
  · cases h
  · cases h
    rfl

theorem fragmentInstant_eq_error {f : Fragment} {zone : Option Offset} {e : Failure}
    (h : fragmentInstant f zone ctx = .error e) : e = .outOfCalendar := by
  cases hstart : f.start? with
  | none =>
    rw [fragmentInstant_of_none hstart] at h
    cases h
  | some t =>
    rw [fragmentInstant_of_start hstart] at h
    cases hu : toUtc t zone ctx with
    | ok u =>
      rw [hu] at h
      cases h
    | error e' =>
      rw [hu] at h
      cases h
      exact toUtc_eq_error hu

/-- A relation of two results that fail in one way only, with the results exchanged. -/
theorem bind_swap {α : Type} {x y : Outcome α} {relation : α → α → Relation}
    (hx : ∀ e, x = .error e → e = .outOfCalendar) (hy : ∀ e, y = .error e → e = .outOfCalendar)
    (hswap : ∀ u v, relation v u = (relation u v).swap) :
    (do let v ← y; let u ← x; return relation v u : Outcome Relation) =
      (do let u ← x; let v ← y; return relation u v : Outcome Relation).map Relation.swap := by
  cases x with
  | ok u =>
    cases y with
    | ok v => exact congrArg Except.ok (hswap u v)
    | error e => rfl
  | error e =>
    cases y with
    | ok v => rfl
    | error e' =>
      rw [hx e rfl, hy e' rfl]
      rfl

theorem relateDurations?_swap {p q : Int × Decimal} (ha : a.durationParts? = some p)
    (hb : b.durationParts? = some q) :
    relateDurations? b a = (relateDurations? a b).map Relation.swap := by
  have hparts : (q.1 == p.1 && q.2.same p.2) = (p.1 == q.1 && p.2.same q.2) := by
    rw [Bool.eq_iff_iff]
    simp only [Bool.and_eq_true, beq_iff_eq, Decimal.same_iff]
    exact and_congr eq_comm eq_comm
  have hequality := congrArg (fun e => some (Relation.equality e)) hparts
  cases a with
  | duration m s =>
    cases ha
    cases b with
    | duration | yearMonthDuration | dayTimeDuration =>
      cases hb
      exact hequality
    | _ => cases hb
  | yearMonthDuration m =>
    cases ha
    cases b with
    | duration =>
      cases hb
      exact hequality
    | yearMonthDuration n =>
      exact congrArg (fun o => some (Relation.ordered (some o))) Std.OrientedOrd.eq_swap
    | dayTimeDuration => rfl
    | _ => cases hb
  | dayTimeDuration s =>
    cases ha
    cases b with
    | duration =>
      cases hb
      exact hequality
    | yearMonthDuration => rfl
    | dayTimeDuration t =>
      exact congrArg (fun o => some (Relation.ordered (some o))) (Decimal.compare_swap s t)
    | _ => cases hb
  | _ => cases ha

/-- Durations relate as such, and in no other way. -/
theorem relateOthers?_of_parts {p : Int × Decimal} (ha : a.durationParts? = some p) :
    relateOthers? a b = none := by
  cases a with
  | duration | yearMonthDuration | dayTimeDuration => rfl
  | _ => cases ha

theorem swap_of_ordered {o o' : Option Ordering}
    (hab : relate? a b ctx = some (.ok (.ordered o)))
    (hba : relate? b a ctx = some (.ok (.ordered o'))) (h : o' = o.map Ordering.swap) :
    relate? b a ctx = (relate? a b ctx).map (Except.map Relation.swap) := by
  rw [hab, hba, h]
  rfl

theorem swap_of_equality {e e' : Bool} (hab : relate? a b ctx = some (.ok (.equality e)))
    (hba : relate? b a ctx = some (.ok (.equality e'))) (h : e' = true ↔ e = true) :
    relate? b a ctx = (relate? a b ctx).map (Except.map Relation.swap) := by
  rw [hab, hba, Bool.eq_iff_iff.2 h]
  rfl

/-- Values relate the other way round as they do one way, with the order turned. -/
theorem relate?_swap (a b : Atomic) (ctx : ValueContext) :
    relate? b a ctx = (relate? a b ctx).map (Except.map Relation.swap) := by
  by_cases hground : a.type.ground = b.type.ground
  · cases pairing_of_ground hground with
    | numbers hx hy =>
      exact swap_of_ordered (relate?_numbers hx hy) (relate?_numbers hy hx)
        (Number.compare?_swap _ _)
    | texts hs ht =>
      exact swap_of_ordered (relate?_texts hs ht) (relate?_texts ht hs)
        (congrArg some (compareText_swap _ _))
    | durations hp hq =>
      rw [relate?_durations hp, relate?_durations hq, relateOthers?_of_parts hp,
        relateOthers?_of_parts hq, relateDurations?_swap hp hq]
      cases relateDurations? a b <;> rfl
    | times hs ht htype hkind =>
      rw [relate?_times hs ht htype hkind, relate?_times ht hs htype.symm (htype ▸ hkind)]
      refine congrArg some (bind_swap (fun _ => toUtc_eq_error) (fun _ => toUtc_eq_error) ?_)
      intro u v
      exact congrArg (fun o => Relation.ordered (some o)) Std.OrientedOrd.eq_swap
    | fragments f g fZone gZone hkind =>
      rw [relate?_fragments hkind, relate?_fragments hkind.symm]
      refine congrArg some (bind_swap (fun _ => fragmentInstant_eq_error)
        (fun _ => fragmentInstant_eq_error) ?_)
      intro x y
      exact congrArg Relation.equality (Bool.eq_iff_iff.2 (by simpa using eq_comm))
    | booleans x y => exact swap_of_ordered rfl rfl (congrArg some Std.OrientedOrd.eq_swap)
    | qNames p q =>
      refine swap_of_equality rfl rfl ?_
      simp only [Bool.and_eq_true, beq_iff_eq]
      exact and_congr eq_comm eq_comm
    | notations s t | base64Binaries s t | hexBinaries s t =>
      refine swap_of_equality rfl rfl ?_
      simp only [beq_iff_eq]
      exact eq_comm
  · rw [relate?_eq_none hground, relate?_eq_none (Ne.symm hground)]
    rfl

end Atomic

end XPathData
