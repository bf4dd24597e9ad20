import XPathData.Proofs.Atomic.Upcast
import XPathData.Proofs.Sequence.Conversion

/-! # Names from strings

  Only a literal is meant to be made into a qualified name. What asks for the literal looks at the
  type of a value and knows two types there, untyped values and strings. Their casts are refused,
  at once or as the result is read, and no text and no binding of a prefix helps. Values of the
  types derived from strings are not asked and are made into names by their text.

  * `Atomic.IsPlain` — the values that are asked for a literal
  * `Stream.CastResult.succeeds` — whether the result of a cast can be read
  * `Stream.names_need_literals` — casts of plain values are refused, all others go on
  * `Stream.names_need_literals_token` — a token that is made into a name
-/

namespace XPathData

variable {content : Nat → List Entry} {s : Store} {entries : List Entry} {items : List Item}

/-- An untyped value, or a string of no narrower type. -/
def Atomic.IsPlain (a : Atomic) : Prop := a.type = .untypedAtomic ∨ a.type = .string .string

theorem firstError?_isSome_of_mem {e : Error} (h : (.error e : Entry) ∈ entries) :
    (firstError? entries).isSome = true := by
  induction entries with
  | nil => cases h
  | cons y l ih =>
    cases y with
    | error _ => rfl
    | ok x => exact ih ((List.mem_cons.1 h).resolve_left nofun)

/-- The cast succeeds, and its result is read without an error. -/
def CastResult.succeeds : CastResult → Bool
  | .reads entries => (firstError? entries).isNone
  | _ => false

namespace Stream

variable {t u : Stream} {F : Forest} {a : Atomic} {target : AtomicType} {occ : Occurrence}
  {literal : Bool} {ctx : ValueContext}

/-! ### Single values -/

/-- A plain value that is no literal is refused as a name. -/
theorem castValue_plain (ha : a.IsPlain) (ctx : ValueContext) :
    ∃ e, castValue a .qName false ctx = .error e ∧ e.code = ErrorCode.typeError.name := by
  unfold castValue
  rw [if_pos (by simpa [Atomic.IsPlain] using ha)]
  exact ⟨_, rfl, rfl⟩

/-- For all other values it does not count whether they are literals. -/
theorem castValue_not_plain (ha : ¬ a.IsPlain) (literal : Bool) (ctx : ValueContext) :
    castValue a .qName literal ctx = a.cast .qName ctx := by
  unfold castValue
  refine if_neg ?_
  simp only [Bool.and_eq_true, Bool.or_eq_true, decide_eq_true_eq]
  rintro ⟨-, htype⟩
  exact ha htype

/-! ### Sequences -/

/-- The test of a cast tells what the cast comes to. -/
theorem ComesTo.castable {T : SequenceType} {r : CastResult}
    (h : ComesTo (t.cast F T literal ctx s) r) :
    (t.castable F T literal ctx s).1 = .ok r.succeeds := by
  rw [castable_eq]
  cases r with
  | refused =>
    rcases hcast : t.cast F T literal ctx s with ⟨r, s'⟩
    rw [hcast] at h
    obtain ⟨e, he, -⟩ := h
    obtain rfl : r = .error e := he
    rw [Fetch.bind_error hcast]
    rfl
  | failed e =>
    rw [h.toList_failed]
    rfl
  | reads entries =>
    rw [h.toList_reads, collect, CastResult.succeeds]
    cases firstError? entries <;> rfl

/-- A cast does not succeed if one of the values cannot be converted. -/
theorem castResult_fails {v : Except Error Atomic} {e : Error} (hv : v ∈ valuesOf F items)
    (he : convertValue target literal ctx v = .error e) :
    (castResult F target occ literal ctx items).succeeds = false := by
  unfold castResult
  split
  · rfl
  · split
    · have hmem : (.error e : Entry) ∈
          (valuesOf F items).map (convertValue target literal ctx) :=
        List.mem_map.2 ⟨v, hv, he⟩
      rw [CastResult.succeeds, Option.isNone_eq_false_iff]
      exact firstError?_isSome_of_mem hmem
    · match items with
      | [] => cases hv
      | x :: l =>
        -- The only value fails, and more than one is refused.
        dsimp only
        generalize valuesOf F (x :: l) = values at hv ⊢
        match values with
        | [] => cases hv
        | [w] =>
          obtain rfl : v = w := List.mem_singleton.1 hv
          rw [singleResult, he]
          rfl
        | w :: w' :: l' => rfl

/-- A cast to names by no literal refuses plain values with a type error: the value of the only
    item at once or when the result is read, and each of many values in its place. All other
    values are cast as if they were literals, strings of derived types among them. A sequence with
    a plain value cannot be cast, whatever its text is. -/
theorem names_need_literals (h : t.Made s (items.map .ok)) (F : Forest) (occ : Occurrence)
    (ctx : ValueContext) :
    let T := SequenceType.items (.atomic .qName) occ
    (∀ x a, items = [x] → x.atomize F = .ok [a] →
      (a.IsPlain → ∃ e, ((t.cast F T false ctx >>= toList) s).1 = .error e ∧
        e.code = ErrorCode.typeError.name) ∧
      (¬ a.IsPlain → ((t.cast F T false ctx >>= toList) s).1 =
        ((t.cast F T true ctx >>= toList) s).1)) ∧
    (occ.allowsMany = true → occ.admits items.length = true →
      ∃ content u s' entries, t.cast F T false ctx s = (.ok u, s') ∧ u.Fresh ∧
        u.Lists content s' entries ∧ entries.length = (valuesOf F items).length ∧
        ∀ (i : Nat) (a : Atomic), (valuesOf F items)[i]? = some (.ok a) →
          (a.IsPlain → ∃ e, entries[i]? = some (.error e) ∧
            e.code = ErrorCode.typeError.name) ∧
          (¬ a.IsPlain → entries[i]? = some ((a.cast .qName ctx).map .atomic))) ∧
    ∀ a, .ok a ∈ valuesOf F items → a.IsPlain → (t.castable F T false ctx s).1 = .ok false := by
  intro T
  obtain ⟨content, hlists⟩ := h.lists
  refine ⟨?_, ?_, ?_⟩
  · rintro x a rfl hx
    constructor
    · intro ha
      obtain ⟨e, he, hcode⟩ := castValue_plain ha ctx
      rw [Lists.cast_one_value hlists hx, he]
      exact ⟨e, rfl, hcode⟩
    · intro ha
      rw [Lists.cast_one_value hlists hx, Lists.cast_one_value hlists hx,
        castValue_not_plain ha, castValue_not_plain ha]
  · intro hmany hcount
    obtain ⟨content', u, s', hcast, hfresh, hu⟩ :=
      hlists.cast_many hmany hcount F .qName false ctx
    refine ⟨content', u, s', _, hcast, hfresh, hu, List.length_map _, ?_⟩
    intro i a hi
    have hentry : ((valuesOf F items).map (convertValue .qName false ctx))[i]? =
        some ((castValue a .qName false ctx).map .atomic) := by
      rw [List.getElem?_map, hi]
      rfl
    rw [hentry]
    constructor
    · intro ha
      obtain ⟨e, he, hcode⟩ := castValue_plain ha ctx
      rw [he]
      exact ⟨e, rfl, hcode⟩
    · intro ha
      rw [castValue_not_plain ha]
  · intro a hmem ha
    obtain ⟨e, he, -⟩ := castValue_plain ha ctx
    have hconvert : convertValue .qName false ctx (.ok a) = .error e := by
      show (castValue a .qName false ctx).map Item.atomic = _
      rw [he]
      rfl
    rw [(hlists.cast_comesTo F .qName occ false ctx).castable, castResult_fails hmem hconvert]

/-- A string and a token with one text, which is a name: the string is refused in its place, so
    the sequence cannot be cast. -/
theorem names_need_literals_two :
    let x := Atomic.str "xs:int"
    let y := Atomic.string .token "xs:int"
    let items : List Item := [.atomic x, .atomic y]
    let p := Pool.run [.items items]
    let t := ofCursor (p.cursor 0)
    let T := SequenceType.items (.atomic .qName) .zeroOrMore
    t.Made p.store (items.map .ok) ∧ x.IsPlain ∧
      (t.castable (.empty .plain) T false .standard p.store).1 = .ok false := by
  intro x y items p t T
  have hmade : t.Made p.store (items.map .ok) := ⟨_, 0, rfl, rfl, rfl⟩
  have hx : x.IsPlain := .inr rfl
  have hmem : .ok x ∈ valuesOf (.empty .plain) items := List.mem_cons_self
  exact ⟨hmade, hx, (names_need_literals hmade (.empty .plain) .zeroOrMore .standard).2.2 x hmem hx⟩

/-- A token is no literal either, but it is made into a name by its text, and the sequence of it
    can be cast. -/
theorem names_need_literals_token :
    let y := Atomic.string .token "xs:int"
    let p := Pool.run [.items [.atomic y]]
    let t := ofCursor (p.cursor 0)
    let T := SequenceType.items (.atomic .qName) .one
    let name := Atomic.qName ⟨some "xs", "int", some Namespace.schema⟩
    t.Made p.store [.ok (.atomic y)] ∧ y.source? = some "xs:int" ∧
      ((t.cast (.empty .plain) T false .standard >>= toList) p.store).1 = .ok [.atomic name] ∧
      (t.castable (.empty .plain) T false .standard p.store).1 = .ok true ∧
      ¬ ∀ (a : Atomic) (text : String) (t : Stream) (s : Store), a.source? = some text →
        t.Made s [.ok (.atomic a)] →
        (∃ e, ((t.cast (.empty .plain) T false .standard >>= toList) s).1 = .error e ∧
          e.code = ErrorCode.typeError.name) ∧
        (t.castable (.empty .plain) T false .standard s).1 = .ok false := by
  intro y p t T name
  have hmade : t.Made p.store [.ok (.atomic y)] := ⟨_, 0, rfl, rfl, rfl⟩
  have hcast : ((t.cast (.empty .plain) T false .standard >>= toList) p.store).1 =
      .ok [.atomic name] := by decide +kernel
  have hcastable : (t.castable (.empty .plain) T false .standard p.store).1 = .ok true := by
    rw [castable_eq, hcast]
    rfl
  refine ⟨hmade, rfl, hcast, hcastable, fun hall => ?_⟩
  obtain ⟨-, hno⟩ := hall y "xs:int" t p.store rfl hmade
  rw [hcastable] at hno
  cases hno

end Stream

end XPathData
