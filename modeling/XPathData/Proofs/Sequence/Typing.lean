import XPathData.Proofs.Sequence.Counting

/-! # Matching and treating

  Three coercions ask whether a sequence has a type: matching reads items and counts them on
  the way, the instance test counts before it matches, and treating counts first and checks
  the items when its result is read. On items without errors all three decide the same. An
  error of the input gets through the instance test unless it is of the kind that the gate
  reports itself.

  * `SequenceType.admits` — some items have a type
  * `Stream.Treats` — what treating items as a type comes to
  * `Stream.coercions_decide_type` — all three coercions decide whether items have a type
  * `Stream.instanceOf_at_error` — what becomes of an error of the input
-/

namespace XPathData

variable {content : Nat → List Entry} {s s' : Store} {entries : List Entry} {items : List Item}

/-! ### Types as sets of sequences -/

namespace SequenceType

/-- A number of items is allowed. -/
def allowsCount (T : SequenceType) (count : Nat) : Bool :=
  match T with
  | .empty => count == 0
  | .items _ occ => occ.admits count

/-- An item may be in a sequence of the type. -/
def allowsItem (F : Forest) (T : SequenceType) (x : Item) : Bool :=
  match T with
  | .empty => false
  | .items type _ => type.admits F x

/-- Some items have a type: their number is allowed, and so is each of them. -/
def admits (F : Forest) (T : SequenceType) (items : List Item) : Bool :=
  T.allowsCount items.length && items.all (T.allowsItem F)

@[simp] theorem admits_empty (F : Forest) (items : List Item) :
    SequenceType.empty.admits F items = items.isEmpty := by
  cases items <;> rfl

/-- Where the number is allowed but not all items are, there is a first one that is not. -/
theorem exists_mismatch {F : Forest} {T : SequenceType}
    (hcount : T.allowsCount items.length = true) (hno : T.admits F items = false) :
    ∃ before x after, items = before ++ x :: after ∧
      (∀ y ∈ before, T.allowsItem F y = true) ∧ T.allowsItem F x = false := by
  have hall : items.all (T.allowsItem F) = false := by simpa [admits, hcount] using hno
  obtain ⟨z, hz, hzno⟩ := List.all_eq_false.1 hall
  have hfound : (items.find? fun x => !T.allowsItem F x).isSome = true :=
    List.find?_isSome.2 ⟨z, hz, by simpa using hzno⟩
  obtain ⟨x, hx⟩ := Option.isSome_iff_exists.1 hfound
  obtain ⟨hxno, before, after, hitems, hbefore⟩ := List.find?_eq_some_iff_append.1 hx
  exact ⟨before, x, after, hitems, by simpa using hbefore, by simpa using hxno⟩

end SequenceType

/-- Where one item is the most, two are too many. -/
theorem Occurrence.admits_of_two_le {occ : Occurrence} {n : Nat} (hmany : occ.allowsMany = false)
    (hn : 2 ≤ n) : occ.admits n = false := by
  cases occ with
  | one => simp only [admits, beq_eq_false_iff_ne]; omega
  | zeroOrOne => simp only [admits, decide_eq_false_iff_not]; omega
  | zeroOrMore | oneOrMore => cases hmany

/-! ### Lists of entries with an error -/

theorem leadingItems_append_error (items : List Item) (e : Error) (l : List Entry) :
    leadingItems (items.map .ok ++ .error e :: l) = items := by
  induction items with
  | nil => rfl
  | cons x items ih => simp only [List.map_cons, List.cons_append, leadingItems, ih]

theorem firstError?_append_error (items : List Item) (e : Error) (l : List Entry) :
    firstError? (items.map .ok ++ .error e :: l) = some e := by
  induction items with
  | nil => rfl
  | cons x items ih => simpa only [List.map_cons, List.cons_append, firstError?] using ih

/-- Entries that agree up to the first error have the same error behind the same items. -/
theorem eq_of_upToError_eq_error {e : Error} {l : List Entry}
    (h : upToError entries = upToError (items.map .ok ++ .error e :: l)) :
    ∃ l', entries = items.map .ok ++ .error e :: l' := by
  induction items generalizing entries with
  | nil =>
    match entries with
    | [] => cases h
    | .ok x :: l' => cases h
    | .error e' :: l' =>
      cases h
      exact ⟨l', rfl⟩
  | cons x items ih =>
    match entries with
    | [] => cases h
    | .error e' :: l' => cases h
    | .ok y :: l' =>
      simp only [List.map_cons, List.cons_append, upToError, List.cons.injEq] at h
      obtain ⟨l'', rfl⟩ := ih h.2
      exact ⟨l'', by rw [h.1]; rfl⟩

/-- Counting meets an error behind items that are not too many if there are none of them, or if
    it looks for a second one. -/
theorem Occurrence.verdict_append_error {occ : Occurrence} {e : Error} {l : List Entry}
    (hcount : occ.allowsMany = false → items.length ≤ 1) :
    occ.verdict (items.map .ok ++ .error e :: l) =
      if items = [] ∨ occ.allowsMany = false then .fails e else .accepts := by
  match items with
  | [] => rfl
  | [x] => cases occ <;> rfl
  | x :: y :: items =>
    have hmany : occ.allowsMany = true := by
      by_contra hno
      have hle := hcount (Bool.eq_false_iff.2 hno)
      simp at hle
    simp [verdict, hmany]

namespace Stream

variable {t u : Stream} {F : Forest} {type : ItemType} {occ : Occurrence}

/-! ### Matching -/

/-- How matching goes on with an item when it has counted some before. -/
def countItem (F : Forest) (type : ItemType) (occ : Occurrence) (count : Nat) (x : Item) :
    Cursor.Progress Nat (Except Error Bool) :=
  if !type.admits F x || (1 ≤ count && !occ.allowsMany) then .stop (.ok false)
  else .more (count + 1)

theorem hasType_items (F : Forest) (t : Stream) (type : ItemType) (occ : Occurrence) :
    t.hasType F (.items type occ) =
      t.cursor.restart.readItems id (countItem F type occ) occ.admits 0 := rfl

/-- Matching stops early only where the answer is no. -/
theorem foldItems_countItem (count : Nat) (items : List Item) :
    foldItems id (countItem F type occ) occ.admits count (items.map .ok) =
      .ok (occ.admits (count + items.length) && items.all (type.admits F)) := by
  induction items generalizing count with
  | nil => simp [foldItems]
  | cons x items ih =>
    simp only [List.map_cons, foldItems, countItem, List.all_cons, List.length_cons]
    by_cases hx : type.admits F x = true
    · by_cases hstop : 1 ≤ count ∧ occ.allowsMany = false
      · -- There are two items at least, so the number of all is not allowed either.
        simp [hx, hstop, Occurrence.admits_of_two_le hstop.2
          (show 2 ≤ count + (items.length + 1) by omega)]
      · have hgo : (decide (1 ≤ count) && !occ.allowsMany) = false := by
          simpa [not_and] using hstop
        simp only [hx, hgo, Bool.not_true, Bool.or_self, Bool.false_eq_true, ↓reduceIte, ih,
          Bool.true_and]
        rw [show count + 1 + items.length = count + (items.length + 1) by omega]
    · simp [hx]

/-- Items that match, and are not too many, do not keep matching from the error behind them. -/
theorem foldItems_countItem_error {e : Error} (l : List Entry) (count : Nat)
    (hitems : ∀ x ∈ items, type.admits F x = true)
    (hcount : occ.allowsMany = false → count + items.length ≤ 1) :
    foldItems id (countItem F type occ) occ.admits count (items.map .ok ++ .error e :: l) =
      .error e := by
  induction items generalizing count with
  | nil => rfl
  | cons x items ih =>
    have hgo : (decide (1 ≤ count) && !occ.allowsMany) = false := by
      cases hmany : occ.allowsMany with
      | true => simp
      | false =>
        have hle := hcount hmany
        rw [List.length_cons] at hle
        simp only [Bool.not_false, Bool.and_true, decide_eq_false_iff_not]
        omega
    simp only [List.map_cons, List.cons_append, foldItems, countItem,
      hitems x List.mem_cons_self, hgo, Bool.not_true, Bool.or_self, Bool.false_eq_true,
      ↓reduceIte]
    refine ih _ (fun y hy => hitems y (List.mem_cons_of_mem x hy)) fun hmany => ?_
    have hle := hcount hmany
    rw [List.length_cons] at hle
    omega

namespace Lists

theorem hasType (h : t.Lists content s (items.map .ok)) (F : Forest) (T : SequenceType) :
    (t.hasType F T s).1 = .ok (T.admits F items) := by
  cases T with
  | empty =>
    rw [SequenceType.admits_empty]
    simp only [Stream.hasType]
    cases items with
    | nil =>
      obtain ⟨c', s', hfetch, -⟩ := h.left.fetch_nil
      rw [Fetch.bind_ok hfetch]
      rfl
    | cons x items =>
      obtain ⟨c', s', hfetch, -⟩ := h.left.fetch_ok
      rw [Fetch.bind_ok hfetch]
      rfl
  | items type occ =>
    obtain ⟨s', hread, -⟩ := h.left.readItems id (countItem F type occ) occ.admits 0
    rw [hasType_items, hread, foldItems_countItem, Nat.zero_add]
    rfl

/-- The instance test on items without errors. The gate refuses only what matching denies; only
    for the empty sequence the number may be known without reading. -/
theorem instanceOf (h : t.Lists content s (items.map .ok)) (F : Forest) (T : SequenceType)
    (hlt : T = .empty → items.length < countLimit) :
    (t.instanceOf F T s).1 = .ok (T.admits F items) := by
  cases T with
  | empty =>
    obtain ⟨s', hempty, -⟩ := h.isEmpty (hlt rfl)
    rw [SequenceType.admits_empty]
    exact congrArg Prod.fst hempty
  | items type occ =>
    have hgate := h.gate occ .typeError
    rcases hr : t.gate occ .typeError s with ⟨r, s'⟩
    rw [hr, Occurrence.verdict_map_ok] at hgate
    cases hcount : occ.admits items.length with
    | true =>
      rw [hcount] at hgate
      obtain ⟨content', u, entries', rfl, -, hu, hagree⟩ := hgate
      rw [eq_of_upToError_eq hagree] at hu
      simp only [Stream.instanceOf, hr]
      exact hu.hasType F (.items type occ)
    | false =>
      rw [hcount] at hgate
      obtain ⟨e, rfl, -, hkind⟩ := hgate
      have hno : (SequenceType.items type occ).admits F items = false := by
        simp [SequenceType.admits, SequenceType.allowsCount, hcount]
      simp only [Stream.instanceOf, hr, hkind, ↓reduceIte, hno]

end Lists

/-! ### Treating -/

/-- What treating items as a type comes to, from the result and the store behind it. -/
structure Treats (F : Forest) (T : SequenceType) (items : List Item)
    (r : Except Error Stream × Store) : Prop where
  /-- Items of the type come back unchanged. -/
  accepts : T.admits F items = true → ∃ u, r.1 = .ok u ∧ u.Drains r.2 items none
  /-- A number that is not allowed fails at once, and nothing else does. -/
  refuses_iff : (∃ e, r.1 = .error e) ↔ T.allowsCount items.length = false
  refusal : ∀ e, r.1 = .error e →
    e.code = ErrorCode.treatFailed.name ∧ e.kind = .cardinalityViolation
  /-- The first item that is not allowed fails when the result is read, behind the items
      before it. -/
  mismatch : T.allowsCount items.length = true → T.admits F items = false →
    ∃ u before x after e, r.1 = .ok u ∧ items = before ++ x :: after ∧
      (∀ y ∈ before, T.allowsItem F y = true) ∧ T.allowsItem F x = false ∧
      u.Drains r.2 before (some e) ∧
      e.code = ErrorCode.treatFailed.name ∧ e.kind = .typeMismatch

namespace Treats

variable {T : SequenceType} {r : Except Error Stream × Store}

/-- Treating that fails at once. -/
theorem refused {e : Error} (hr : r.1 = .error e) (hcode : e.code = ErrorCode.treatFailed.name)
    (hkind : e.kind = .cardinalityViolation) (hcount : T.allowsCount items.length = false) :
    Treats F T items r where
  accepts hyes := by simp [SequenceType.admits, hcount] at hyes
  refuses_iff := ⟨fun _ => hcount, fun _ => ⟨e, hr⟩⟩
  refusal e' he' := by
    rw [hr] at he'
    cases he'
    exact ⟨hcode, hkind⟩
  mismatch hyes := by simp [hcount] at hyes

/-- Treating that gives a stream; a check that fails does so when the stream is read. -/
theorem checked (hr : r.1 = .ok u) (hcount : T.allowsCount items.length = true)
    (hyes : T.admits F items = true → u.Drains r.2 items none)
    (hno : ∀ before x after, items = before ++ x :: after →
      (∀ y ∈ before, T.allowsItem F y = true) → T.allowsItem F x = false →
      ∃ e, u.Drains r.2 before (some e) ∧
        e.code = ErrorCode.treatFailed.name ∧ e.kind = .typeMismatch) :
    Treats F T items r where
  accepts hadmits := ⟨u, hr, hyes hadmits⟩
  refuses_iff := by simp [hr, hcount]
  refusal e he := by
    rw [hr] at he
    cases he
  mismatch hallowed hdenied := by
    obtain ⟨before, x, after, hitems, hbefore, hx⟩ :=
      SequenceType.exists_mismatch hallowed hdenied
    obtain ⟨e, hdrains, hcode, hkind⟩ := hno before x after hitems hbefore hx
    exact ⟨u, before, x, after, e, hr, hitems, hbefore, hx, hdrains, hcode, hkind⟩

end Treats

/-- Items that are what the type asks for pass the check. -/
theorem map_checkItem_of_admits {code : ErrorCode}
    (h : ∀ x ∈ items, type.admits F x = true) :
    items.map (checkItem F type code) = items.map .ok :=
  List.map_congr_left fun x hx => by rw [checkItem, if_pos (h x hx)]

namespace Lists

/-- Treating counts first; its result has each item checked. -/
theorem treat_items (h : t.Lists content s (items.map .ok)) (F : Forest)
    (type : ItemType) (hcount : occ.admits items.length = true) :
    ∃ content' u s', t.treat F (.items type occ) s = (.ok u, s') ∧ u.Fresh ∧
      u.Lists content' s' (items.map (checkItem F type .treatFailed)) := by
  have hgate := h.gate occ .treatFailed
  rcases hr : t.gate occ .treatFailed s with ⟨r, s'⟩
  rw [hr, Occurrence.verdict_map_ok, hcount] at hgate
  obtain ⟨content', u, entries', rfl, hfresh, hu, hagree⟩ := hgate
  rw [eq_of_upToError_eq hagree] at hu
  simp only [Stream.treat]
  rw [Fetch.bind_ok hr]
  by_cases hitem : type = .item
  · -- The gated sequence itself is the result, since every item would pass.
    rw [if_pos hitem, map_checkItem_of_admits fun x _ => by rw [hitem]; cases x <;> rfl]
    exact ⟨content', u, s', rfl, hfresh, hu⟩
  · rw [if_neg hitem]
    have hmap := hu.map (checkItem F type .treatFailed)
    rw [List.map_map] at hmap
    exact ⟨content', _, s', rfl, fresh_map u _, hmap⟩

/-- Treating items as the empty sequence. -/
theorem treats_empty (h : t.Lists content s (items.map .ok)) (hlt : items.length < countLimit)
    (F : Forest) : Treats F .empty items (t.treat F .empty s) := by
  obtain ⟨s', hempty, hfollows⟩ := h.isEmpty hlt
  simp only [Stream.treat, requireEmpty]
  rw [Fetch.bind_ok hempty]
  cases items with
  | nil =>
    have hdrains := (Lists.ofList hfollows.holds []).drains (fresh_ofList [])
    refine Treats.checked rfl rfl (fun _ => hdrains) fun before x after hitems => ?_
    simp at hitems
  | cons x items => exact Treats.refused rfl rfl rfl rfl

theorem treats (h : t.Lists content s (items.map .ok)) (hlt : items.length < countLimit)
    (F : Forest) (T : SequenceType) : Treats F T items (t.treat F T s) := by
  match T with
  | .empty => exact h.treats_empty hlt F
  | .items type occ =>
    cases hcount : occ.admits items.length with
    | true =>
      obtain ⟨content', u, s', htreat, hfresh, hu⟩ := h.treat_items F type hcount
      have hdrains := hu.drains hfresh
      rw [htreat]
      refine Treats.checked rfl hcount (fun hyes => ?_) fun before x after hitems hbefore hx => ?_
      · have hall : ∀ x ∈ items, type.admits F x = true := by
          simpa [SequenceType.admits, SequenceType.allowsCount, SequenceType.allowsItem, hcount]
            using hyes
        rw [map_checkItem_of_admits hall, leadingItems_map_ok, firstError?_map_ok] at hdrains
        exact hdrains
      · have hxno : ¬ type.admits F x = true := by simpa [SequenceType.allowsItem] using hx
        rw [hitems, List.map_append, List.map_cons, map_checkItem_of_admits hbefore, checkItem,
          if_neg hxno, leadingItems_append_error, firstError?_append_error] at hdrains
        exact ⟨_, hdrains, rfl, rfl⟩
    | false =>
      have hgate := h.gate occ .treatFailed
      rcases hr : t.gate occ .treatFailed s with ⟨r, s'⟩
      rw [hr, Occurrence.verdict_map_ok, hcount] at hgate
      obtain ⟨e, rfl, hcode, hkind⟩ := hgate
      have htreat : t.treat F (.items type occ) s = (.error e, s') := Fetch.bind_error hr
      rw [htreat]
      exact Treats.refused rfl hcode hkind hcount

end Lists

/-! ### All three -/

/-- On every stream of items, made in whatever way and read as far as one likes, the instance
    test and matching answer whether the items have the type. Treating gives the items back
    unchanged if they have it; otherwise it fails at once for their number, or at the first
    item of another type when the result is read. -/
theorem coercions_decide_type (h : t.Made s (items.map .ok)) (hlt : items.length < countLimit)
    (F : Forest) (T : SequenceType) :
    (t.instanceOf F T s).1 = .ok (T.admits F items) ∧
      (t.hasType F T s).1 = .ok (T.admits F items) ∧ Treats F T items (t.treat F T s) := by
  obtain ⟨content, hlists⟩ := h.lists
  exact ⟨hlists.instanceOf F T fun _ => hlt, hlists.hasType F T, hlists.treats hlt F T⟩

/-- A buffered concatenation that was read in part, and a type that allows one item only. -/
theorem coercions_decide_type_concat :
    let p := Pool.run [.items [.atomic (.boolean true)],
      .produce "p" [.ok (.atomic (.untyped "a"))], .concat 0 1, .buffer 2, .next 3]
    let t := ofCursor (p.cursor 3)
    let T := SequenceType.items (.atomic .boolean) .zeroOrOne
    let items : List Item := [.atomic (.boolean true), .atomic (.untyped "a")]
    t.Made p.store (items.map .ok) ∧ items.length < countLimit ∧
      (t.instanceOf (.empty .plain) T p.store).1 = .ok false ∧
      (t.hasType (.empty .plain) T p.store).1 = .ok false ∧
      Treats (.empty .plain) T items (t.treat (.empty .plain) T p.store) := by
  intro p t T items
  have hmade : t.Made p.store (items.map .ok) := ⟨_, 3, rfl, rfl, rfl⟩
  have hlt : items.length < countLimit := by decide
  exact ⟨hmade, hlt, coercions_decide_type hmade hlt (.empty .plain) T⟩

/-! ### Errors of the input -/

theorem Lists.instanceOf_error {e : Error} {l : List Entry}
    (h : t.Lists content s (items.map .ok ++ .error e :: l))
    (hitems : ∀ x ∈ items, type.admits F x = true)
    (hcount : occ.allowsMany = false → items.length ≤ 1) :
    (t.instanceOf F (.items type occ) s).1 =
      if e.kind = .cardinalityViolation ∧ (items = [] ∨ occ.allowsMany = false) then .ok false
      else .error e := by
  have hgate := h.gate occ .typeError
  rcases hr : t.gate occ .typeError s with ⟨r, s'⟩
  rw [hr, Occurrence.verdict_append_error hcount] at hgate
  by_cases hmet : items = [] ∨ occ.allowsMany = false
  · -- The gate itself reads the error.
    rw [if_pos hmet] at hgate
    simp only [GatedAs] at hgate
    subst hgate
    simp only [Stream.instanceOf, hr, hmet, and_true]
    split <;> rfl
  · -- The gate is content with the first item, and matching reads the error.
    rw [if_neg hmet] at hgate
    obtain ⟨content', u, entries', rfl, -, hu, hagree⟩ := hgate
    obtain ⟨l', rfl⟩ := eq_of_upToError_eq_error hagree
    obtain ⟨s'', hread, -⟩ := hu.left.readItems id (countItem F type occ) occ.admits 0
    rw [foldItems_countItem_error l' 0 hitems fun hno => absurd (.inr hno) hmet] at hread
    simp only [Stream.instanceOf, hr, hmet, and_false, ↓reduceIte, hasType_items, hread]

/-- An error of the input behind items that match and are not too many: the instance test fails
    with it, unless the gate reads it and its kind is the one that the gate reports itself. Then
    the answer is no. -/
theorem instanceOf_at_error {e : Error} {l : List Entry}
    (h : t.Made s (items.map .ok ++ .error e :: l))
    (hitems : ∀ x ∈ items, type.admits F x = true)
    (hcount : occ.allowsMany = false → items.length ≤ 1) :
    (t.instanceOf F (.items type occ) s).1 =
      if e.kind = .cardinalityViolation ∧ (items = [] ∨ occ.allowsMany = false) then .ok false
      else .error e := by
  obtain ⟨content, hlists⟩ := h.lists
  exact hlists.instanceOf_error hitems hcount

/-- The same error is answered with no where one item is the most, and gets through where many
    items are allowed. -/
theorem instanceOf_at_error_second :
    let e := Error.ofCode .notOneOrMore "boom"
    let p := Pool.run [.produce "p" [.ok (.atomic (.boolean true)), .error e]]
    let t := ofCursor (p.cursor 0)
    (t.instanceOf (.empty .plain) (.items .item .one) p.store).1 = .ok false ∧
      (t.instanceOf (.empty .plain) (.items .item .oneOrMore) p.store).1 = .error e := by
  intro e p t
  have hmade : t.Made p.store ([Item.atomic (.boolean true)].map .ok ++ .error e :: []) :=
    ⟨_, 0, rfl, rfl, rfl⟩
  have hitems : ∀ x ∈ [Item.atomic (.boolean true)],
      ItemType.item.admits (.empty .plain) x = true := by simp [ItemType.admits]
  exact ⟨instanceOf_at_error hmade hitems fun _ => by simp,
    instanceOf_at_error hmade hitems fun hno => by cases hno⟩

/-- An error that the first reading meets is taken for a wrong number of items, although every
    number of items is allowed. -/
theorem instanceOf_swallows_error :
    let e := Error.ofCode .notOneOrMore "boom"
    let p := Pool.run [.produce "p" [.error e]]
    let t := ofCursor (p.cursor 0)
    t.Made p.store [.error e] ∧
      (t.instanceOf (.empty .plain) (.items .item .zeroOrMore) p.store).1 = .ok false ∧
      (t.instanceOf (.empty .plain) (.items .item .zeroOrMore) p.store).1 ≠ .error e := by
  intro e p t
  have hanswer : (t.instanceOf (.empty .plain) (.items .item .zeroOrMore) p.store).1 = .ok false :=
    rfl
  exact ⟨⟨_, 0, rfl, rfl, rfl⟩, hanswer, by rw [hanswer]; simp⟩

end Stream

end XPathData
