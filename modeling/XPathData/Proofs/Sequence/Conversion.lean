import XPathData.Proofs.Sequence.Casting

/-! # What a cast comes to

  A cast to an atomic type goes one of two ways. Where one item is the most, the only value of
  the only item is converted at once. Where many are allowed, the values of all items are found
  and converted when the result is read, from a buffer that the gate has begun to read. Both
  ways come to the same reference, which speaks of the list of items alone: the conversions of
  their values, one after the other, up to the first that fails.

  * `valuesOf` — the atomic values of some items
  * `castResult` — the reference
  * `Stream.cast_by_reference` — every cast to an atomic type comes to it
-/

namespace XPathData

variable {content : Nat → List Entry} {s s' : Store} {entries : List Entry} {items : List Item}

/-! ### The reference -/

/-- The atomic values of some items, one after the other; an item that has an error instead of
    values counts as that error. -/
def valuesOf (F : Forest) (items : List Item) : List (Except Error Atomic) :=
  items.flatMap fun x =>
    match x.atomize F with
    | .ok values => values.map .ok
    | .error e => [.error e]

/-- The conversion of a value; an error in place of a value stays what it is. -/
def convertValue (target : AtomicType) (literal : Bool) (ctx : ValueContext)
    (v : Except Error Atomic) : Entry :=
  v.bind fun a => (Stream.castValue a target literal ctx).map .atomic

/-- What a cast comes to. -/
inductive CastResult where
  /-- The number of items, or of the values of the only item, is not allowed. -/
  | refused
  /-- The cast itself fails. -/
  | failed (e : Error)
  /-- The cast succeeds; its result gives these entries when it is read. -/
  | reads (entries : List Entry)
  deriving DecidableEq

/-- The result for the values of the only item, where one is the most. -/
def singleResult (occ : Occurrence) (convert : Except Error Atomic → Entry) :
    List (Except Error Atomic) → CastResult
  | [] => if occ.allowsEmpty then .reads [] else .refused
  | [v] =>
    match convert v with
    | .ok y => .reads [.ok y]
    | .error e => .failed e
  | _ => .refused

/-- The result for some items: their number is checked first, then either all values are
    converted as they are read, or the only one at once. -/
def castResult (F : Forest) (target : AtomicType) (occ : Occurrence) (literal : Bool)
    (ctx : ValueContext) (items : List Item) : CastResult :=
  if occ.admits items.length = false then .refused
  else if occ.allowsMany then .reads ((valuesOf F items).map (convertValue target literal ctx))
  else
    match items with
    | [] => .reads []
    | _ => singleResult occ (convertValue target literal ctx) (valuesOf F items)

/-! ### Values -/

/-- Atomization and the casts behind it, item by item, are the conversions of the values. -/
theorem map_castItem_atomized (F : Forest) (target : AtomicType) (literal : Bool)
    (ctx : ValueContext) (items : List Item) :
    ((items.map .ok).flatMap (Entry.atomized F)).map
        (fun e => e.bind (Stream.castItem target literal ctx)) =
      (valuesOf F items).map (convertValue target literal ctx) := by
  induction items with
  | nil => rfl
  | cons x items ih =>
    simp only [valuesOf] at ih
    simp only [valuesOf, List.map_cons, List.flatMap_cons, List.map_append, ih, Entry.atomized]
    cases x.atomize F with
    | ok values =>
      simp only [List.map_map]
      rfl
    | error e => rfl

theorem valuesOf_ok {F : Forest} {x : Item} {values : List Atomic}
    (h : x.atomize F = .ok values) : valuesOf F [x] = values.map .ok := by
  simp [valuesOf, h]

theorem valuesOf_error {F : Forest} {x : Item} {e : Error} (h : x.atomize F = .error e) :
    valuesOf F [x] = [.error e] := by
  simp [valuesOf, h]

/-- A computation that reads nothing leaves the store. -/
theorem Fetch.lift {α : Type} (r : Except Error α) : (liftM r : Fetch α) s = (r, s) := rfl

namespace Stream

variable {t u : Stream} {F : Forest} {a : AtomicType} {occ : Occurrence} {literal : Bool}
  {ctx : ValueContext} {r : Except Error Stream × Store}

/-! ### Outcomes -/

/-- The outcome of a cast is the one that is foreseen; reading its result ends with the first
    error. -/
def ComesTo (r : Except Error Stream × Store) : CastResult → Prop
  | .refused =>
    ∃ e, r.1 = .error e ∧ e.code = ErrorCode.typeError.name ∧ e.kind = .cardinalityViolation
  | .failed e => r.1 = .error e
  | .reads entries =>
    ∃ u, r.1 = .ok u ∧ u.Drains r.2 (leadingItems entries) (firstError? entries) ∧
      (u.toList r.2).1 = collect entries

/-- A fresh stream over a sound store gives its entries. -/
theorem Lists.comesTo (h : u.Lists content s entries) (hfresh : u.Fresh) :
    ComesTo (.ok u, s) (.reads entries) := by
  obtain ⟨s', hlist, -⟩ := h.toList
  exact ⟨u, rfl, h.drains hfresh, congrArg Prod.fst hlist⟩

/-- Reading the result of a cast that succeeds gives its items, or its first error. -/
theorem ComesTo.toList_reads {f : Fetch Stream} (h : ComesTo (f s) (.reads entries)) :
    ((f >>= toList) s).1 = collect entries := by
  rcases hf : f s with ⟨r, s'⟩
  rw [hf] at h
  obtain ⟨u, rfl, -, hlist⟩ := h
  rw [Fetch.bind_ok hf]
  exact hlist

theorem ComesTo.toList_failed {f : Fetch Stream} {e : Error} (h : ComesTo (f s) (.failed e)) :
    ((f >>= toList) s).1 = .error e := by
  rcases hf : f s with ⟨r, s'⟩
  rw [hf] at h
  have hr : r = .error e := h
  subst hr
  rw [Fetch.bind_error hf]

/-! ### One item at most -/

/-- The values of the only item decide. -/
theorem Lists.castSingle_item {x : Item} (h : t.Lists content s [.ok x]) (F : Forest)
    (a : AtomicType) (occ : Occurrence) (literal : Bool) (ctx : ValueContext) :
    ComesTo (Stream.castSingle F t a occ literal ctx s)
      (singleResult occ (convertValue a literal ctx) (valuesOf F [x])) := by
  obtain ⟨s₁, hfirst, hfollows⟩ := h.first_ok
  unfold Stream.castSingle
  rw [Fetch.bind_ok hfirst]
  dsimp only
  cases hx : x.atomize F with
  | error e =>
    rw [valuesOf_error hx, Fetch.bind_error (Fetch.lift _)]
    rfl
  | ok values =>
    rw [valuesOf_ok hx, Fetch.bind_ok (Fetch.lift _)]
    match values with
    | [] =>
      simp only [List.map_nil, singleResult]
      split
      · exact (Lists.ofList hfollows.holds []).comesTo (fresh_ofList [])
      · exact ⟨_, rfl, rfl, rfl⟩
    | [b] =>
      have hconvert : convertValue a literal ctx (.ok b) =
          (castValue b a literal ctx).map .atomic := rfl
      simp only [List.map_cons, List.map_nil, singleResult, hconvert]
      cases castValue b a literal ctx with
      | error e =>
        rw [Fetch.bind_error (Fetch.lift _)]
        rfl
      | ok c =>
        rw [Fetch.bind_ok (Fetch.lift _)]
        exact (Lists.ofList hfollows.holds [.atomic c]).comesTo (fresh_ofList [.atomic c])
    | b :: c :: l => exact ⟨_, rfl, rfl, rfl⟩

/-! ### All casts to atomic types -/

/-- A gate lets items through if their number is allowed. -/
theorem Lists.gate_items (h : t.Lists content s (items.map .ok))
    (hcount : occ.admits items.length = true) (code : ErrorCode) :
    ∃ content' g s', t.gate occ code s = (.ok g, s') ∧ g.Fresh ∧
      g.Lists content' s' (items.map .ok) := by
  have hgate := h.gate occ code
  rcases hr : t.gate occ code s with ⟨r, s'⟩
  rw [hr, Occurrence.verdict_map_ok, hcount] at hgate
  obtain ⟨content', g, entries', rfl, hfresh, hg, hagree⟩ := hgate
  rw [eq_of_upToError_eq hagree] at hg
  exact ⟨content', g, s', rfl, hfresh, hg⟩

/-- Where many items are allowed, the result of a cast has one entry for each value. -/
theorem Lists.cast_many (h : t.Lists content s (items.map .ok)) (hmany : occ.allowsMany = true)
    (hcount : occ.admits items.length = true) (F : Forest) (a : AtomicType) (literal : Bool)
    (ctx : ValueContext) :
    ∃ content' u s', t.cast F (.items (.atomic a) occ) literal ctx s = (.ok u, s') ∧ u.Fresh ∧
      u.Lists content' s' ((valuesOf F items).map (convertValue a literal ctx)) := by
  obtain ⟨content', g, s', hgate, -, hg⟩ := h.gate_items hcount .typeError
  have hlists := (hg.atomize F).map (castItem a literal ctx)
  rw [map_castItem_atomized] at hlists
  refine ⟨content', (g.atomize F).map (castItem a literal ctx), s', ?_, fresh_map _ _, hlists⟩
  show (t.gate occ .typeError >>= _) s = _
  rw [Fetch.bind_ok hgate]
  dsimp only
  rw [if_pos hmany]
  rfl

theorem Lists.cast_comesTo (h : t.Lists content s (items.map .ok)) (F : Forest)
    (a : AtomicType) (occ : Occurrence) (literal : Bool) (ctx : ValueContext) :
    ComesTo (t.cast F (.items (.atomic a) occ) literal ctx s)
      (castResult F a occ literal ctx items) := by
  simp only [castResult]
  cases hcount : occ.admits items.length with
  | false =>
    have hgate := h.gate occ .typeError
    rcases hr : t.gate occ .typeError s with ⟨r, s'⟩
    rw [hr, Occurrence.verdict_map_ok, hcount] at hgate
    obtain ⟨e, rfl, hcode, hkind⟩ := hgate
    show ComesTo ((t.gate occ .typeError >>= _) s) _
    rw [Fetch.bind_error hr]
    exact ⟨e, rfl, hcode, hkind⟩
  | true =>
    cases hmany : occ.allowsMany with
    | true =>
      -- Nothing is read before the result is.
      obtain ⟨content', u, s', hcast, hfresh, hu⟩ := h.cast_many hmany hcount F a literal ctx
      rw [hcast]
      exact hu.comesTo hfresh
    | false =>
      obtain ⟨content', g, s', hgate, hfresh, hg⟩ := h.gate_items hcount .typeError
      have hcast : t.cast F (.items (.atomic a) occ) literal ctx s =
          Stream.castSingle F g a occ literal ctx s' := by
        show (t.gate occ .typeError >>= _) s = _
        rw [Fetch.bind_ok hgate]
        dsimp only
        rw [if_neg (by simp [hmany])]
      rw [hcast]
      match items with
      | [] =>
        obtain ⟨s₁, hfirst, hfollows⟩ := hg.first_nil
        show ComesTo (Stream.castSingle F g a occ literal ctx s') (.reads [])
        unfold Stream.castSingle
        rw [Fetch.bind_ok hfirst]
        exact (hg.later hfollows).comesTo hfresh
      | [x] => exact hg.castSingle_item F a occ literal ctx
      | x :: y :: l =>
        rw [Occurrence.admits_of_two_le hmany (by simp)] at hcount
        cases hcount

/-- A cast of one item with one value gives the conversion of the value when it is read, in both
    ways. -/
theorem Lists.cast_one_value {x : Item} {b : Atomic} (h : t.Lists content s [.ok x])
    (hx : x.atomize F = .ok [b]) :
    ((t.cast F (.items (.atomic a) occ) literal ctx >>= Stream.toList) s).1 =
      (castValue b a literal ctx).map fun c => [.atomic c] := by
  have hlists : t.Lists content s ([x].map .ok) := h
  have hcomes := hlists.cast_comesTo F a occ literal ctx
  have hadmits : occ.admits [x].length = true := occ.admits_one
  have hvalues : valuesOf F [x] = [.ok b] := valuesOf_ok hx
  have hconvert : convertValue a literal ctx (.ok b) = (castValue b a literal ctx).map .atomic :=
    rfl
  simp only [castResult, hadmits, hvalues, List.map_cons, List.map_nil, singleResult, hconvert,
    Bool.true_eq_false, ↓reduceIte] at hcomes
  cases hmany : occ.allowsMany with
  | true =>
    rw [if_pos hmany] at hcomes
    rw [hcomes.toList_reads]
    cases castValue b a literal ctx with
    | ok c => rfl
    | error e => rfl
  | false =>
    rw [if_neg (by simp [hmany])] at hcomes
    cases hb : castValue b a literal ctx with
    | ok c =>
      rw [hb] at hcomes
      exact hcomes.toList_reads
    | error e =>
      rw [hb] at hcomes
      exact hcomes.toList_failed

/-- On every stream of items, made in whatever way and read as far as one likes, a cast to an
    atomic type comes to the reference. An item with one value is cast alike whether one item is
    the most or many are allowed: reading the result gives the value or the error of the only
    conversion. -/
theorem cast_by_reference (h : t.Made s (items.map .ok)) (F : Forest) (a : AtomicType)
    (occ : Occurrence) (literal : Bool) (ctx : ValueContext) :
    ComesTo (t.cast F (.items (.atomic a) occ) literal ctx s)
        (castResult F a occ literal ctx items) ∧
      ∀ x b, items = [x] → x.atomize F = .ok [b] →
        ((t.cast F (.items (.atomic a) occ) literal ctx >>= toList) s).1 =
          (castValue b a literal ctx).map fun c => [.atomic c] := by
  obtain ⟨content, hlists⟩ := h.lists
  refine ⟨hlists.cast_comesTo F a occ literal ctx, ?_⟩
  rintro x b rfl hx
  exact hlists.cast_one_value hx

/-- A text of a number and a word, from a buffered producer: cast to any number of integers it
    gives the number and then fails; cast to one integer it is refused. -/
theorem cast_by_reference_two_words :
    let F := (Forest.empty .words).add (.textOf "1 x")
    let p := Pool.run [.produce "p" [.ok (.node 0)], .buffer 0]
    let t := ofCursor (p.cursor 1)
    let T := ItemType.atomic (.integer .integer)
    t.Made p.store ([Item.node 0].map .ok) ∧
      ComesTo (t.cast F (.items T .zeroOrMore) false .standard p.store)
        (.reads [.ok (.atomic (.int ⟨1, by decide, by decide⟩)),
          .error (Atomic.invalidForm "x" (.integer .integer))]) ∧
      ComesTo (t.cast F (.items T .one) false .standard p.store) .refused := by
  intro F p t T
  have hmade : t.Made p.store ([Item.node 0].map .ok) := ⟨_, 1, rfl, rfl, rfl⟩
  have hmany : castResult F (.integer .integer) .zeroOrMore false .standard [.node 0] =
      .reads [.ok (.atomic (.int ⟨1, by decide, by decide⟩)),
        .error (Atomic.invalidForm "x" (.integer .integer))] := by decide
  have hone : castResult F (.integer .integer) .one false .standard [.node 0] = .refused := by
    decide
  exact ⟨hmade, hmany ▸ (cast_by_reference hmade F (.integer .integer) .zeroOrMore false .standard).1,
    hone ▸ (cast_by_reference hmade F (.integer .integer) .one false .standard).1⟩

end Stream

end XPathData
