import XPathData.Sequence.Coercion

/-! # The type of a cast value

  A cast that succeeds gives a value whose type is the target itself, whatever the value was
  cast from: its text, a related value, or the value as it is.

  * `Gives` — what a computation gives, if it succeeds, has a property
  * `Atomic.gives_convert` — conversion, target by target
  * `Atomic.gives_cast` — casting
  * `Stream.gives_castItem` — casting an item
-/

namespace XPathData

/-! ### Computations -/

/-- Whatever a computation gives has a property; it may also fail. -/
def Gives {ε α : Type} (r : Except ε α) (p : α → Prop) : Prop := ∀ a, r = .ok a → p a

namespace Gives

variable {ε α β : Type} {p : α → Prop} {q : β → Prop}

theorem ok {a : α} (h : p a) : Gives (.ok a : Except ε α) p := by
  intro b hb
  cases hb
  exact h

theorem error (e : ε) : Gives (.error e) p := by
  intro b hb
  cases hb

/-- What the first part gives may be used for the second one. -/
theorem bind_of {r : Except ε α} {f : α → Except ε β} (hr : Gives r p)
    (h : ∀ a, p a → Gives (f a) q) : Gives (r >>= f) q := by
  cases r with
  | ok a => exact h a (hr a rfl)
  | error e => exact error e

theorem bind {r : Except ε α} {f : α → Except ε β} (h : ∀ a, Gives (f a) q) :
    Gives (r >>= f) q :=
  bind_of (p := fun _ => True) (fun _ _ => trivial) fun a _ => h a

theorem map_of {r : Except ε α} {f : α → β} (hr : Gives r p) (h : ∀ a, p a → q (f a)) :
    Gives (r.map f) q := by
  cases r with
  | ok a => exact ok (h a (hr a rfl))
  | error e => exact error e

theorem map {r : Except ε α} {f : α → β} (h : ∀ a, q (f a)) : Gives (r.map f) q :=
  map_of (p := fun _ => True) (fun _ _ => trivial) fun a _ => h a

theorem ite {c : Prop} [Decidable c] {r r' : Except ε α} (h : c → Gives r p)
    (h' : ¬c → Gives r' p) : Gives (if c then r else r') p := by
  split
  · next hc => exact h hc
  · next hc => exact h' hc

theorem mapError {ε' : Type} {r : Except ε α} {f : ε → ε'} (h : Gives r p) :
    Gives (r.mapError f) p := by
  cases r with
  | ok a => exact ok (h a rfl)
  | error e => exact error _

end Gives

/-! ### Fragments of dates -/

namespace Fragment

theorem kind_ofDate (d : Date) (k : FragmentKind) : (ofDate d k).kind = k := by
  cases k <;> rfl

theorem gives_readFields (s : List Char) (k : FragmentKind) :
    Gives (readFields s k) fun f => f.kind = k := by
  cases k with
  | year => exact Gives.map fun y => rfl
  | yearMonth =>
    exact Gives.bind fun _ => Gives.bind fun _ => Gives.bind fun _ => Gives.ok rfl
  | month => exact Gives.bind fun _ => Gives.bind fun _ => Gives.ok rfl
  | day => exact Gives.bind fun _ => Gives.bind fun _ => Gives.ok rfl
  | monthDay =>
    refine Gives.bind fun _ => Gives.bind fun _ => Gives.bind fun m => Gives.bind fun d => ?_
    -- Behind the check of the day the fragment is made.
    split
    · exact Gives.error _
    · exact Gives.ok rfl

theorem gives_read (s : List Char) (k : FragmentKind) :
    Gives (read k s) fun r => r.1.kind = k :=
  Gives.bind fun (body, _) => Gives.bind_of (gives_readFields body k) fun _ hf => Gives.ok hf

end Fragment

namespace Atomic

/-! ### Conversions -/

theorem gives_castString (text : String) (k : StringKind) :
    Gives (castString text k) fun b => b.type = .string k := by
  unfold castString
  dsimp only
  split
  · exact Gives.ok rfl
  · exact Gives.error _

theorem gives_castBoolean (a : Atomic) : Gives (castBoolean a) fun b => b.type = .boolean := by
  unfold castBoolean
  split
  case h_1 | h_2 =>
    dsimp only
    split
    · exact Gives.ok rfl
    · split
      · exact Gives.ok rfl
      · exact Gives.error _
  case h_7 => exact Gives.error _
  all_goals exact Gives.ok rfl

theorem gives_ofInteger (n : Int) (k : IntegerKind) :
    Gives (ofInteger n k) fun b => b.type = .integer k := by
  unfold ofInteger
  dsimp only
  split
  · exact Gives.map fun _ => rfl
  · exact Gives.error _

theorem gives_castDuration (a : Atomic) {target : AtomicType}
    (ht : target = .duration ∨ target = .yearMonthDuration ∨ target = .dayTimeDuration) :
    Gives (castDuration a target) fun b => b.type = target := by
  refine Gives.bind fun parts => ?_
  rcases ht with rfl | rfl | rfl <;> exact Gives.ok rfl

theorem gives_castDateTime (a : Atomic) :
    Gives (castDateTime a) fun b => b.type = .dateTime := by
  unfold castDateTime
  split
  · exact Gives.ok rfl
  · exact Gives.map fun _ => rfl

theorem gives_castDate (a : Atomic) : Gives (castDate a) fun b => b.type = .date := by
  unfold castDate
  split
  · exact Gives.ok rfl
  · exact Gives.map fun _ => rfl

theorem gives_castTime (a : Atomic) : Gives (castTime a) fun b => b.type = .time := by
  unfold castTime
  split
  · exact Gives.ok rfl
  · exact Gives.map fun _ => rfl

/-- A literal of a value's text gives what its reader gives. -/
theorem gives_castLiteral {α : Type} {p : α → Prop} {read : List Char → Reading α}
    (a : Atomic) (target : AtomicType) (h : ∀ s, Gives (read s) p) :
    Gives (castLiteral a target read) p := by
  unfold castLiteral
  split
  · exact (h _).mapError
  · exact Gives.error _

theorem gives_castFragment (a : Atomic) (k : FragmentKind) :
    Gives (castFragment a k) fun b => b.type = .fragment k := by
  unfold castFragment
  split
  · exact Gives.ok (congrArg AtomicType.fragment (Fragment.kind_ofDate _ k))
  · exact Gives.ok (congrArg AtomicType.fragment (Fragment.kind_ofDate _ k))
  · exact Gives.map_of (gives_castLiteral a _ fun s => Fragment.gives_read s k)
      fun r hr => congrArg AtomicType.fragment hr

theorem gives_castQName (a : Atomic) (ctx : ValueContext) :
    Gives (castQName a ctx) fun b => b.type = .qName := by
  unfold castQName
  split
  · exact Gives.error _
  · split
    · exact Gives.error _
    · exact Gives.ok rfl
    · dsimp only
      split
      · exact Gives.ok rfl
      · exact Gives.error _

/-- A conversion gives a value of its target. -/
theorem gives_convert (a : Atomic) (target : AtomicType) (ctx : ValueContext) :
    Gives (a.convert target ctx) fun b => b.type = target := by
  cases target with
  | untypedAtomic => exact Gives.ok rfl
  | string k => exact gives_castString a.text k
  | boolean => exact gives_castBoolean a
  | decimal | double | float | hexBinary | base64Binary => exact Gives.map fun _ => rfl
  | integer k => exact Gives.bind fun n => gives_ofInteger n k
  | duration => exact gives_castDuration a (.inl rfl)
  | yearMonthDuration => exact gives_castDuration a (.inr (.inl rfl))
  | dayTimeDuration => exact gives_castDuration a (.inr (.inr rfl))
  | dateTime => exact gives_castDateTime a
  | date => exact gives_castDate a
  | time => exact gives_castTime a
  | fragment k => exact gives_castFragment a k
  | anyURI =>
    simp only [convert]
    split
    · exact Gives.ok rfl
    · exact Gives.error _
  | qName => exact gives_castQName a ctx
  | anyAtomic | notationName => exact Gives.error _

/-- A cast gives a value of its target; a value that has the type already stays as it is. -/
theorem gives_cast (a : Atomic) (target : AtomicType) (ctx : ValueContext) :
    Gives (a.cast target ctx) fun b => b.type = target := by
  unfold cast
  split
  · exact Gives.error _
  · split
    · next htype => exact Gives.ok htype
    · exact gives_convert a target ctx

end Atomic

/-! ### Derivation -/

/-- A type derives from itself. -/
theorem AtomicType.derivesFrom_self (t : AtomicType) : t.derivesFrom t = true := by
  unfold derivesFrom ancestors
  split <;> simp

/-- What a cast gives is an item of the target. -/
theorem Stream.gives_castItem (F : Forest) (target : AtomicType) (literal : Bool)
    (ctx : ValueContext) (x : Item) :
    Gives (castItem target literal ctx x)
      fun y => (ItemType.atomic target).admits F y = true := by
  cases x with
  | node n => exact Gives.error _
  | atomic a =>
    have hcast : Gives (castValue a target literal ctx) fun b => b.type = target := by
      unfold castValue
      split
      · exact Gives.error _
      · exact a.gives_cast target ctx
    refine Gives.map_of hcast fun b hb => ?_
    simp only [ItemType.admits, hb, AtomicType.derivesFrom_self]

end XPathData
