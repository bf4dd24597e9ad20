import Mathlib.Logic.Relation
import XPathData.Proofs.Atomic.WellFormed
import XPathData.Proofs.Sequence.Conversion
import XPathData.Proofs.Sequence.OnePass

/-! # Casts to types above

  A value is an instance of its type and of the types above it. The value space of a type lies in
  those of the types above, so a cast to one of them has nothing to refuse, and it keeps what the
  value denotes. There is one exception: the unsigned integers of 64 bits are below `integer`, but
  a value of `integer` has a sign in its 64 bits and does not hold the greatest of them.

  * `AtomicType.derivesFrom_iff` — the test of derivation decides the closure of restriction
  * `Atomic.SameValue` — two values of different types denote the same
  * `Atomic.cast_above` — casts of well-formed values to the types above
  * `Stream.castable_eq` — the test of a cast
  * `Stream.castable_of_instance` — an instance of a type can be cast to it
-/

namespace XPathData

open Text

/-! ### Derivation -/

namespace AtomicType

/-- A type restricts its parent. -/
def Restricts (t u : AtomicType) : Prop := t.parent? = some u

variable {t u : AtomicType}

/-- What is above a type is the type itself or above its parent. -/
theorem derivesFrom_parent : t.derivesFrom u = true ↔
    t = u ∨ ∃ p, t.parent? = some p ∧ p.derivesFrom u = true := by
  unfold derivesFrom
  rw [ancestors, eq_comm (a := t)]
  split
  · next hroot => simp [hroot]
  · next p hparent => simp [hparent]

/-- Derivation is restriction in some steps. -/
theorem derivesFrom_iff : t.derivesFrom u = true ↔ Relation.ReflTransGen Restricts t u := by
  induction t using ancestors.induct with
  | case1 t hroot =>
    rw [derivesFrom_parent, Relation.ReflTransGen.cases_head_iff]
    simp [Restricts, hroot]
  | case2 t p hparent ih =>
    rw [derivesFrom_parent, Relation.ReflTransGen.cases_head_iff]
    simp [Restricts, hparent, ih]

/-- Above a type right below `anyAtomic` there is only that one. -/
theorem above_of_parent (hparent : t.parent? = some anyAtomic) (h : t.derivesFrom u = true) :
    t = u ∨ u = anyAtomic := by
  obtain rfl | ⟨p, hp, h⟩ := derivesFrom_parent.1 h
  · exact .inl rfl
  · cases hparent.symm.trans hp
    obtain rfl | ⟨p, hp, -⟩ := derivesFrom_parent.1 h
    · exact .inr rfl
    · cases hp

/-- Above a kind of durations there is the general one. -/
theorem above_of_duration (hparent : t.parent? = some duration) (h : t.derivesFrom u = true) :
    t = u ∨ u = duration ∨ u = anyAtomic := by
  obtain rfl | ⟨p, hp, h⟩ := derivesFrom_parent.1 h
  · exact .inl rfl
  · cases hparent.symm.trans hp
    exact .inr ((above_of_parent rfl h).imp_left Eq.symm)

end AtomicType

/-! ### Value spaces -/

namespace Text

theorem isNameStart_colon {c : Char} (h : isNameStart false c = true) :
    isNameStart true c = true := by
  simp only [isNameStart, Bool.false_and, Bool.false_or] at h
  rw [isNameStart, Bool.or_assoc, h, Bool.or_true]

theorem isNameChar_colon {c : Char} (h : isNameChar false c = true) : isNameChar true c = true := by
  simp only [isNameChar, Bool.or_eq_true] at h ⊢
  exact h.imp_left (Or.imp_left (Or.imp_left (Or.imp_left isNameStart_colon)))

/-- A name without colons is a name. -/
theorem isName_of_isNCName {s : List Char} (h : isNCName s = true) : isName true s = true := by
  cases s with
  | nil => cases h
  | cons c s =>
    obtain ⟨hc, hs⟩ := Bool.and_eq_true_iff.1 h
    have hrest : s.all (isNameChar true) = true :=
      List.all_eq_true.2 fun d hd => isNameChar_colon (List.all_eq_true.1 hs d hd)
    exact Bool.and_eq_true_iff.2 ⟨isNameStart_colon hc, hrest⟩

end Text

/-- A text of a string type is one of the type that it restricts. -/
theorem StringKind.Has.parent {k l : StringKind} {s : List Char} (hparent : k.parent? = some l)
    (h : k.Has s) : l.Has s := by
  cases k with
  | string => cases hparent
  | normalizedString =>
    cases hparent
    trivial
  | token =>
    cases hparent
    exact StringKind.has_normalizedString_iff.2 h.1.onlySpaces
  | language | nmtoken | name =>
    cases hparent
    exact ⟨h.1, rfl⟩
  | ncName =>
    cases hparent
    exact ⟨h.1, isName_of_isNCName h.2⟩
  | id | idref | entity =>
    cases hparent
    exact h

/-- The bounds of an integer type lie in those of the type that it restricts, except for the upper
    ones where that type is `integer`. -/
theorem IntegerKind.bounds_parent {k l : IntegerKind} {n : Int} (hparent : k.parent? = some l)
    (h : k.least ≤ n ∧ n ≤ k.greatest) : l.least ≤ n ∧ (l = .integer ∨ n ≤ l.greatest) := by
  -- Each step gives up one bound or widens the word.
  cases k <;> cases hparent <;> simp [least, greatest, low, high] at * <;> omega

/-- The types above a type of strings, with a text that has the type. -/
theorem StringKind.Has.above {k : StringKind} {s : List Char} {t : AtomicType} (hs : k.Has s)
    (h : (AtomicType.string k).derivesFrom t = true) :
    t = .anyAtomic ∨ ∃ l : StringKind, t = .string l ∧ l.Has s := by
  -- The induction climbs from a type to its parent, with the text as one of the type.
  induction AtomicType.derivesFrom_iff.1 h with
  | refl => exact .inr ⟨k, rfl, hs⟩
  | tail hu hstep ih =>
    have hparent : AtomicType.parent? _ = _ := hstep
    obtain rfl | ⟨l, rfl, hl⟩ := ih (AtomicType.derivesFrom_iff.2 hu)
    · cases hparent
    · cases hp : l.parent? with
      | none =>
        simp only [AtomicType.parent?, hp] at hparent
        cases hparent
        exact .inl rfl
      | some m =>
        simp only [AtomicType.parent?, hp] at hparent
        cases hparent
        exact .inr ⟨m, rfl, hl.parent hp⟩

/-- The types above an integer type, with an integer in the bounds of the type. -/
theorem IntegerKind.above {k : IntegerKind} {n : Int} {t : AtomicType}
    (hn : k.least ≤ n ∧ n ≤ k.greatest) (h : (AtomicType.integer k).derivesFrom t = true) :
    t = .anyAtomic ∨ t = .decimal ∨
      ∃ l : IntegerKind, t = .integer l ∧ l.least ≤ n ∧ (l = .integer ∨ n ≤ l.greatest) := by
  induction AtomicType.derivesFrom_iff.1 h with
  | refl => exact .inr (.inr ⟨k, rfl, hn.1, .inr hn.2⟩)
  | tail hu hstep ih =>
    have hparent : AtomicType.parent? _ = _ := hstep
    obtain rfl | rfl | ⟨l, rfl, hleast, hgreatest⟩ := ih (AtomicType.derivesFrom_iff.2 hu)
    · cases hparent
    · cases hparent
      exact .inl rfl
    · cases hp : l.parent? with
      | none =>
        simp only [AtomicType.parent?, hp] at hparent
        cases hparent
        exact .inr (.inl rfl)
      | some m =>
        simp only [AtomicType.parent?, hp] at hparent
        cases hparent
        -- `integer` has no parent among the integer types.
        have hl : l ≠ .integer := by
          rintro rfl
          cases hp
        exact .inr (.inr ⟨m, rfl, bounds_parent hp ⟨hleast, hgreatest.resolve_left hl⟩⟩)

/-! ### Casts to the types above -/

namespace Atomic

/-- Two values denote the same: the same number, the same text, the same months and seconds. -/
inductive SameValue : Atomic → Atomic → Prop
  | refl (a : Atomic) : SameValue a a
  | text (k l : StringKind) (s : String) : SameValue (string k s) (string l s)
  | integer {k l : IntegerKind} {n : k.Word} {m : l.Word} (h : m.val = n.val) :
    SameValue (integer k n) (integer l m)
  | decimal {k : IntegerKind} {n : k.Word} {d : Decimal} (h : d.value = n.val) :
    SameValue (integer k n) (decimal d)
  | months (m : Signed32) : SameValue (yearMonthDuration m) (duration m .zero)
  | seconds (s : Decimal) : SameValue (dayTimeDuration s) (duration .zero s)

/-- The target is `integer`, and the value an integer beyond 64 bits with a sign. -/
def outgrows (a : Atomic) (target : AtomicType) : Bool :=
  target = .integer .integer && a.integer?.any fun n => 0x7FFFFFFFFFFFFFFF < n

variable {a : Atomic} {target : AtomicType} {ctx : ValueContext}

/-- An integer is too large for `integer` where it outgrows it. -/
theorem convert_outgrown {k : IntegerKind} {n : k.Word}
    (h : (integer k n).outgrows target = true) :
    ∃ e, (integer k n).convert target ctx = .error e ∧
      e.code = ErrorCode.integerTooLarge.name := by
  obtain ⟨htarget, hlarge⟩ := Bool.and_eq_true_iff.1 h
  obtain rfl := of_decide_eq_true htarget
  have hlarge : 0x7FFFFFFFFFFFFFFF < n.val := of_decide_eq_true hlarge
  have hnone : (Bounded.ofInt? n.val : Option IntegerKind.integer.Word) = none := by
    rw [Bounded.ofInt?_eq_none_iff]
    intro hword
    exact absurd hword.2 (not_le.2 hlarge)
  refine ⟨.ofCode .integerTooLarge (String.ofList (writeInt n.val) ++ " is out of range for " ++
    (AtomicType.integer .integer).text), ?_, rfl⟩
  show ofInteger n.val .integer = _
  simp only [ofInteger, IntegerKind.admits, if_true, hnone]
  rfl

/-- A conversion to another type above. -/
theorem convert_above (ha : a.WellFormed) (htarget : target.isAbstract = false)
    (hne : a.type ≠ target) (hsub : a.type.derivesFrom target = true)
    (hfits : a.outgrows target = false) (ctx : ValueContext) :
    ∃ w, a.convert target ctx = .ok w ∧ a.SameValue w := by
  cases a with
  | string k s =>
    obtain rfl | ⟨l, rfl, hl⟩ := StringKind.Has.above ha hsub
    · cases htarget
    · exact ⟨string l s, castString_of_has hl, .text k l s⟩
  | integer k n =>
    obtain rfl | rfl | ⟨l, rfl, hleast, hgreatest⟩ := IntegerKind.above ha hsub
    · cases htarget
    · exact ⟨_, rfl, .decimal (Decimal.value_ofWord n k.bounds)⟩
    · have hbound : n.val ≤ l.greatest := by
        obtain rfl | hgreatest := hgreatest
        · show n.val ≤ 0x7FFFFFFFFFFFFFFF
          simpa [outgrows, integer?] using hfits
        · exact hgreatest
      obtain ⟨m, hm, hcast⟩ := exists_ofInteger ⟨hleast, hbound⟩
      exact ⟨integer l m, hcast, .integer hm⟩
  | yearMonthDuration m =>
    obtain h | rfl | rfl := AtomicType.above_of_duration rfl hsub
    · exact absurd h hne
    · exact ⟨_, rfl, .months m⟩
    · cases htarget
  | dayTimeDuration s =>
    obtain h | rfl | rfl := AtomicType.above_of_duration rfl hsub
    · exact absurd h hne
    · exact ⟨_, rfl, .seconds s⟩
    · cases htarget
  | _ =>
    -- All other types are right below `anyAtomic`.
    obtain h | rfl := AtomicType.above_of_parent rfl hsub
    · exact absurd h hne
    · cases htarget

/-- A cast of a well-formed value to a type above it succeeds and keeps what the value denotes,
    except that `integer` does not hold an integer that outgrows it. -/
theorem cast_above (ha : a.WellFormed) (htarget : target.isAbstract = false)
    (hsub : a.type.derivesFrom target = true) (ctx : ValueContext) :
    (a.outgrows target = false →
      ∃ w, a.cast target ctx = .ok w ∧ w.type = target ∧ a.SameValue w) ∧
    (a.outgrows target = true →
      ∃ e, a.cast target ctx = .error e ∧ e.code = ErrorCode.integerTooLarge.name) := by
  by_cases htype : a.type = target
  · rw [cast_self htarget htype]
    refine ⟨fun _ => ⟨a, rfl, htype, .refl a⟩, fun hlarge => ?_⟩
    -- What `integer` holds does not outgrow it.
    obtain ⟨htarget, hlarge⟩ := Bool.and_eq_true_iff.1 hlarge
    obtain rfl := of_decide_eq_true htarget
    cases a with
    | integer k n =>
      cases htype
      exact absurd n.le_high (not_le.2 (of_decide_eq_true hlarge))
    | _ => cases htype
  · rw [cast_of_ne htarget htype]
    refine ⟨fun hfits => ?_, fun hlarge => ?_⟩
    · obtain ⟨w, hw, hsame⟩ := convert_above ha htarget htype hsub hfits ctx
      exact ⟨w, hw, gives_convert a target ctx w hw, hsame⟩
    · cases a with
      | integer k n => exact convert_outgrown hlarge
      | _ => simp [outgrows, integer?] at hlarge

end Atomic

/-! ### Single values -/

namespace Stream

variable {t : Stream} {s : Store} {content : Nat → List Entry} {F : Forest} {a : Atomic}
  {target : AtomicType} {occ : Occurrence} {literal : Bool} {ctx : ValueContext}

/-- A sequence can be cast if the cast succeeds and its result can be read. -/
theorem castable_eq (t : Stream) (F : Forest) (T : SequenceType) (literal : Bool)
    (ctx : ValueContext) (s : Store) :
    (t.castable F T literal ctx s).1 =
      .ok (((t.cast F T literal ctx >>= toList) s).1.isOk) := by
  unfold castable
  rcases hcast : t.cast F T literal ctx s with ⟨r, s₁⟩
  cases r with
  | error e =>
    rw [Fetch.bind_error hcast, Fetch.tryCatch_error (Fetch.bind_error hcast)]
    rfl
  | ok u =>
    rw [Fetch.bind_ok hcast]
    rcases hdrain : u.toList s₁ with ⟨r, s₂⟩
    cases r with
    | error e =>
      have hdiscard : (discard u.toList : Fetch PUnit) s₁ = (.error e, s₂) :=
        Fetch.bind_error hdrain
      rw [Fetch.tryCatch_error ((Fetch.bind_ok hcast).trans (Fetch.bind_error hdiscard))]
      rfl
    | ok items =>
      have hdiscard : (discard u.toList : Fetch PUnit) s₁ = (.ok (), s₂) := Fetch.bind_ok hdrain
      rw [Fetch.tryCatch_ok ((Fetch.bind_ok hcast).trans (Fetch.bind_ok hdiscard))]
      rfl

/-- The rule on names is about strings and untyped values, which names are not above. -/
theorem castValue_above (hsub : a.type.derivesFrom target = true) (literal : Bool)
    (ctx : ValueContext) : castValue a target literal ctx = a.cast target ctx := by
  refine if_neg ?_
  simp only [Bool.and_eq_true, Bool.or_eq_true, decide_eq_true_eq]
  rintro ⟨⟨htarget, -⟩, htype⟩
  have hparent : a.type.parent? = some .anyAtomic := by
    rcases htype with htype | htype <;> rw [htype] <;> rfl
  rcases AtomicType.above_of_parent hparent hsub with rfl | rfl
  · rcases htarget with h | h <;> rcases htype with h' | h' <;> cases h.symm.trans h'
  · rcases htarget with h | h <;> cases h

/-- A well-formed value that is an instance of a type can be cast to it, unless it is an integer
    beyond 64 bits with a sign and the type is `integer`. The cast succeeds and keeps what the value
    denotes; where the integer is too large, it fails, and the test of the cast says so. -/
theorem castable_of_instance (ha : a.WellFormed) (htarget : target.isAbstract = false) :
    (a.type.derivesFrom target = true → ∀ ctx,
      (a.outgrows target = false →
        ∃ w, a.cast target ctx = .ok w ∧ w.type = target ∧ a.SameValue w) ∧
      (a.outgrows target = true →
        ∃ e, a.cast target ctx = .error e ∧ e.code = ErrorCode.integerTooLarge.name)) ∧
    ∀ (t : Stream) (s : Store) (F : Forest) (occ : Occurrence) (literal : Bool)
      (ctx : ValueContext), t.Made s [.ok (.atomic a)] →
      (t.instanceOf F (.items (.atomic target) occ) s).1 = .ok true →
      (t.castable F (.items (.atomic target) occ) literal ctx s).1 =
        .ok (!a.outgrows target) := by
  refine ⟨fun hsub ctx => a.cast_above ha htarget hsub ctx, ?_⟩
  intro t s F occ literal ctx hmade hinstance
  obtain ⟨content, hlists⟩ := hmade.lists
  have hsub : a.type.derivesFrom target = true := by
    have hitems : t.Lists content s ([Item.atomic a].map .ok) := hlists
    rw [hitems.instanceOf F (.items (.atomic target) occ) fun h => by cases h] at hinstance
    have hadmits := Except.ok.inj hinstance
    simp only [SequenceType.admits, SequenceType.allowsItem, ItemType.admits, List.all_cons,
      List.all_nil, Bool.and_true, Bool.and_eq_true] at hadmits
    exact hadmits.2
  obtain ⟨hfits, hlarge⟩ := a.cast_above ha htarget hsub ctx
  rw [castable_eq, hlists.cast_one_value rfl, castValue_above hsub]
  cases h : a.outgrows target with
  | false =>
    obtain ⟨w, hw, -⟩ := hfits h
    rw [hw]
    rfl
  | true =>
    obtain ⟨e, he, -⟩ := hlarge h
    rw [he]
    rfl

/-- The greatest integer of 64 bits with a sign, as an unsigned one. -/
theorem castable_of_instance_unsigned :
    let a : Atomic := .integer .unsignedLong ⟨0x7FFFFFFFFFFFFFFF, by decide, by decide⟩
    let target : AtomicType := .integer .integer
    let p := Pool.run [.items [.atomic a]]
    let t := ofCursor (p.cursor 0)
    let T := SequenceType.items (.atomic target) .one
    a.WellFormed ∧ target.isAbstract = false ∧ a.type.derivesFrom target = true ∧
      a.outgrows target = false ∧ t.Made p.store [.ok (.atomic a)] ∧
      (t.instanceOf (.empty .plain) T p.store).1 = .ok true ∧
      (∃ w, a.cast target .standard = .ok w ∧ w.type = target ∧ a.SameValue w) ∧
      (t.castable (.empty .plain) T false .standard p.store).1 = .ok true := by
  intro a target p t T
  have ha : a.WellFormed := ⟨by decide, by decide⟩
  have hsub : a.type.derivesFrom target = true := by decide +kernel
  have hmade : t.Made p.store [.ok (.atomic a)] := ⟨_, 0, rfl, rfl, rfl⟩
  have hinstance : (t.instanceOf (.empty .plain) T p.store).1 = .ok true := by decide +kernel
  have htarget : target.isAbstract = false := rfl
  obtain ⟨hcast, hcastable⟩ := castable_of_instance ha htarget
  exact ⟨ha, htarget, hsub, rfl, hmade, hinstance, (hcast hsub .standard).1 rfl,
    hcastable t p.store (.empty .plain) .one false .standard hmade hinstance⟩

/-- One more is still an unsigned integer of 64 bits and an instance of `integer`, but it cannot be
    cast to it. -/
theorem unsigned_instance_not_castable :
    let a : Atomic := .integer .unsignedLong ⟨0x8000000000000000, by decide, by decide⟩
    let target : AtomicType := .integer .integer
    let t := single (.atomic a)
    let T := SequenceType.items (.atomic target) .one
    a.WellFormed ∧ target.isAbstract = false ∧ a.type.derivesFrom target = true ∧
      (∃ e, a.cast target .standard = .error e ∧ e.code = ErrorCode.integerTooLarge.name) ∧
      (t.instanceOf (.empty .plain) T .empty).1 = .ok true ∧
      (t.castable (.empty .plain) T false .standard .empty).1 = .ok false := by
  intro a target t T
  exact ⟨⟨by decide, by decide⟩, rfl, by decide +kernel, ⟨_, rfl, rfl⟩, by decide +kernel,
    by decide +kernel⟩

end Stream

end XPathData
