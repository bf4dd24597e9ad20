import XPathData.Proofs.Sequence.OnDemand

/-! # What readings find

  A reading goes through a cursor until it knows enough. What it finds depends only on the
  entries that the cursor has left: it is a fold over them, and the bound on the number of
  entries is never reached.

  * `Cursor.Left` — a cursor over a sound store, with the entries that it has left
  * `foldItems` — a reading of a list of entries
  * `Cursor.Left.readItems` — reading a cursor is reading the list of its entries
  * `Stream.Lists` — a stream over a sound store, with the entries of its sequence
  * `Stream.Drains` — what a stream gives when it goes on until nothing is left
  * `Stream.Made` — a stream that some actions lead to
-/

namespace XPathData

variable {content : Nat → List Entry} {s s' s'' : Store} {entries : List Entry}

/-! ### Computations that succeed or fail -/

namespace Fetch

variable {α β : Type} {x : Fetch α} {f : α → Fetch β}

theorem bind_ok {a : α} (h : x s = (.ok a, s')) : (x >>= f) s = f a s' := by
  show (match x s with | (r, s') => ExceptT.bindCont f r s') = f a s'
  rw [h]
  rfl

theorem bind_error {e : Error} (h : x s = (.error e, s')) : (x >>= f) s = (.error e, s') := by
  show (match x s with | (r, s') => ExceptT.bindCont f r s') = _
  rw [h]
  rfl

/-- A computation that succeeds behind another one had both succeed. -/
theorem of_bind_ok {b : β} (h : (x >>= f) s = (.ok b, s'')) :
    ∃ a s', x s = (.ok a, s') ∧ f a s' = (.ok b, s'') := by
  rcases hx : x s with ⟨_ | a, s'⟩
  · rw [bind_error hx] at h
    cases h
  · exact ⟨a, s', rfl, (bind_ok hx).symm.trans h⟩

end Fetch

/-! ### Lists of entries -/

/-- The items of entries without errors; the first error fails. -/
def collect (entries : List Entry) : Except Error (List Item) :=
  match firstError? entries with
  | none => .ok (leadingItems entries)
  | some e => .error e

/-- Entries without errors are their leading items. -/
theorem eq_map_leading (h : firstError? entries = none) :
    entries = (leadingItems entries).map .ok := by
  induction entries with
  | nil => rfl
  | cons e l ih =>
    cases e with
    | error e => simp [firstError?] at h
    | ok x => simp only [leadingItems, List.map_cons, ← ih h]

@[simp] theorem leadingItems_map_ok (items : List Item) :
    leadingItems (items.map .ok) = items := by
  induction items with
  | nil => rfl
  | cons x items ih => simp only [List.map_cons, leadingItems, ih]

@[simp] theorem firstError?_map_ok (items : List Item) :
    firstError? (items.map .ok) = none := by
  induction items with
  | nil => rfl
  | cons x items ih => simpa only [List.map_cons, firstError?] using ih

theorem collect_eq_ok {items : List Item} : collect entries = .ok items ↔ entries = items.map .ok := by
  constructor
  · intro h
    unfold collect at h
    split at h
    · next hnone =>
      cases h
      exact eq_map_leading hnone
    · cases h
  · rintro rfl
    simp [collect]

@[simp] theorem leadingItems_upToError (entries : List Entry) :
    leadingItems (upToError entries) = leadingItems entries := by
  induction entries with
  | nil => rfl
  | cons e l ih =>
    cases e with
    | error e => rfl
    | ok x => simp only [upToError, leadingItems, ih]

@[simp] theorem firstError?_upToError (entries : List Entry) :
    firstError? (upToError entries) = firstError? entries := by
  induction entries with
  | nil => rfl
  | cons e l ih =>
    cases e with
    | error e => rfl
    | ok x => simpa only [upToError, firstError?] using ih

@[simp] theorem upToError_upToError (entries : List Entry) :
    upToError (upToError entries) = upToError entries := by
  rw [upToError_eq (upToError entries), leadingItems_upToError, firstError?_upToError,
    ← upToError_eq]

/-- Entries that agree up to the first error agree if there is none. -/
theorem eq_of_upToError_eq {items : List Item}
    (h : upToError entries = upToError (items.map .ok)) : entries = items.map .ok := by
  have hlead := congrArg leadingItems h
  have hfail := congrArg firstError? h
  simp only [leadingItems_upToError, firstError?_upToError, leadingItems_map_ok,
    firstError?_map_ok] at hlead hfail
  rw [← hlead]
  exact eq_map_leading hfail

/-- Goes through entries; the first error fails, and so does `f` where it stops with one. -/
def foldItems {σ α ε : Type} (raise : Error → ε)
    (f : σ → Item → Cursor.Progress σ (Except ε α)) (finish : σ → α) : σ → List Entry → Except ε α
  | state, [] => .ok (finish state)
  | _, .error e :: _ => .error (raise e)
  | state, .ok x :: l =>
    match f state x with
    | .more state => foldItems raise f finish state l
    | .stop r => r

theorem foldItems_toList (l : List Item) (entries : List Entry) :
    foldItems id (fun l x => .more (x :: l)) List.reverse l entries =
      (collect entries).map (l.reverse ++ ·) := by
  induction entries generalizing l with
  | nil => simp [foldItems, collect, firstError?, leadingItems, Except.map]
  | cons e entries ih =>
    cases e with
    | error e => rfl
    | ok x =>
      simp only [foldItems, ih]
      unfold collect
      simp only [firstError?, leadingItems]
      split <;> simp [Except.map]

/-! ### Stores that readings lead to -/

/-- One reading behind another. -/
theorem Store.Follows.andThen (h : s.Follows content s.buffers.size s')
    (h' : s'.Follows content s'.buffers.size s'') : s.Follows content s.buffers.size s'' :=
  h.trans (h.size ▸ h')

namespace Cursor

/-- A reading that takes an entry leaves fewer steps. -/
theorem nextWithin_stepsLeft {steps : Nat} {c : Cursor} (hs : s.Holds content)
    (hc : c.Sound s s.buffers.size) (hyield : (nextWithin steps c s).1 ≠ none) :
    (nextWithin steps c s).2.1.stepsLeft (nextWithin steps c s).2.2 < c.stepsLeft s := by
  induction steps generalizing c s with
  | zero => exact absurd rfl hyield
  | succ steps ih =>
    have hstep := step_advances hs hc
    rcases hr : c.step s with ⟨out, c', s'⟩
    rw [hr] at hstep
    obtain ⟨hfollows, hsound, -, -, hfewer⟩ := hstep
    simp only at hfollows hsound hfewer
    rw [← hfollows.size] at hsound
    simp only [nextWithin, hr] at hyield ⊢
    cases out with
    | yield e => exact hfewer (by simp)
    | done => exact absurd rfl hyield
    | skip => exact Nat.lt_trans (ih hfollows.holds hsound hyield) (hfewer (by simp))

/-! ### Reading a cursor -/

/-- A cursor over a store in which the buffers hold `content`, and the entries it has left. -/
structure Left (content : Nat → List Entry) (s : Store) (c : Cursor) (entries : List Entry) :
    Prop where
  holds : s.Holds content
  sound : c.Sound s s.buffers.size
  remaining : c.remaining content = entries

namespace Left

variable {c : Cursor} {e : Error} {x : Item}

theorem next_nil (h : c.Left content s []) :
    ∃ c' s', c.next s = (none, c', s') ∧ s.Follows content s.buffers.size s' := by
  obtain ⟨hfollows, -, -, hhead, -⟩ := next_reads h.holds h.sound
  rw [h.remaining] at hhead
  exact ⟨_, _, Prod.ext hhead rfl, hfollows⟩

theorem next_cons {e : Entry} (h : c.Left content s (e :: entries)) :
    ∃ c' s', c.next s = (some e, c', s') ∧ c'.Left content s' entries ∧
      s.Follows content s.buffers.size s' ∧ c'.stepsLeft s' < c.stepsLeft s := by
  obtain ⟨hfollows, hsound, -, hhead, htail⟩ := next_reads h.holds h.sound
  rw [h.remaining] at hhead htail
  have hfewer := nextWithin_stepsLeft h.holds h.sound
    (show (c.next s).1 ≠ none by rw [hhead]; simp)
  exact ⟨_, _, Prod.ext hhead rfl, ⟨hfollows.holds, hsound, htail⟩, hfollows, hfewer⟩

theorem fetch_nil (h : c.Left content s []) :
    ∃ c' s', c.fetch s = (.ok (none, c'), s') ∧ s.Follows content s.buffers.size s' := by
  obtain ⟨c', s', hnext, hfollows⟩ := h.next_nil
  exact ⟨c', s', by rw [fetch, hnext], hfollows⟩

theorem fetch_ok (h : c.Left content s (.ok x :: entries)) :
    ∃ c' s', c.fetch s = (.ok (some x, c'), s') ∧ c'.Left content s' entries ∧
      s.Follows content s.buffers.size s' := by
  obtain ⟨c', s', hnext, hleft, hfollows, -⟩ := h.next_cons
  exact ⟨c', s', by rw [fetch, hnext], hleft, hfollows⟩

theorem fetch_error (h : c.Left content s (.error e :: entries)) :
    ∃ s', c.fetch s = (.error e, s') ∧ s.Follows content s.buffers.size s' := by
  obtain ⟨c', s', hnext, -, hfollows, -⟩ := h.next_cons
  exact ⟨s', by rw [fetch, hnext], hfollows⟩

/-- Reading the items of a cursor is reading the list of its entries. -/
theorem readItems {σ α ε : Type} (raise : Error → ε)
    (f : σ → Item → Progress σ (Except ε α)) (finish : σ → α) (start : σ)
    (h : c.Left content s entries) :
    ∃ s', c.readItems raise f finish start s = (foldItems raise f finish start entries, s') ∧
      s.Follows content s.buffers.size s' := by
  unfold Cursor.readItems read
  generalize hlimit : c.stepsLeft s + 1 = limit
  have hroom : c.stepsLeft s < limit := by omega
  clear hlimit
  -- Each entry that is read leaves fewer steps, so the limit lasts to the end of the entries.
  induction limit generalizing c s start entries with
  | zero => omega
  | succ limit ih =>
    match entries with
    | [] =>
      obtain ⟨c', s', hnext, hfollows⟩ := h.next_nil
      exact ⟨s', by simp only [readWithin, hnext, foldItems], hfollows⟩
    | .error e :: entries =>
      obtain ⟨c', s', hnext, -, hfollows, -⟩ := h.next_cons
      exact ⟨s', by simp only [readWithin, hnext, foldItems], hfollows⟩
    | .ok x :: entries =>
      obtain ⟨c', s', hnext, hleft, hfollows, hfewer⟩ := h.next_cons
      simp only [readWithin, hnext, foldItems]
      cases f start x with
      | more start' =>
        obtain ⟨s'', hread, hfollows'⟩ := ih start' hleft (by omega)
        exact ⟨s'', hread, hfollows.andThen hfollows'⟩
      | stop r => exact ⟨s', rfl, hfollows⟩

theorem toList (h : c.Left content s entries) :
    ∃ s', c.toList s = (collect entries, s') ∧ s.Follows content s.buffers.size s' := by
  obtain ⟨s', hread, hfollows⟩ :=
    h.readItems id (fun l x => .more (x :: l)) List.reverse []
  refine ⟨s', ?_, hfollows⟩
  rw [Cursor.toList, hread, foldItems_toList]
  cases collect entries <;> rfl

end Left

end Cursor

/-! ### Streams -/

namespace Stream

variable {t u : Stream}

/-- A stream over a store in which the buffers hold `content`, and the entries of its sequence,
    wherever the stream is. -/
structure Lists (content : Nat → List Entry) (s : Store) (t : Stream) (entries : List Entry) :
    Prop where
  holds : s.Holds content
  sound : t.cursor.Sound s s.buffers.size
  whole : t.cursor.restart.remaining content = entries

/-- A stream that is at its start. -/
def Fresh (t : Stream) : Prop := t.restart = t

theorem fresh_restart (t : Stream) : t.restart.Fresh := by
  simp [Fresh, restart, ofCursor]

theorem fresh_ofList (items : List Item) : (ofList items).Fresh := rfl

theorem fresh_map (t : Stream) (f : Item → Entry) : (t.map f).Fresh := by
  simp [Fresh, Stream.map, restart, ofCursor, Cursor.restart]

namespace Lists

/-- A fresh copy of the cursor has all entries left. -/
theorem left (h : t.Lists content s entries) : t.cursor.restart.Left content s entries :=
  ⟨h.holds, h.sound.restart, h.whole⟩

theorem later (h : t.Lists content s entries) (hs : s.Follows content s.buffers.size s') :
    t.Lists content s' entries where
  holds := hs.holds
  sound := hs.size ▸ h.sound.later hs.grows
  whole := h.whole

theorem restart (h : t.Lists content s entries) : t.restart.Lists content s entries where
  holds := h.holds
  sound := h.sound.restart
  whole := by
    show t.cursor.restart.restart.remaining content = entries
    rw [Cursor.restart_restart, h.whole]

theorem ofList (hs : s.Holds content) (items : List Item) :
    (Stream.ofList items).Lists content s (items.map .ok) :=
  ⟨hs, trivial, rfl⟩

theorem map (h : t.Lists content s entries) (f : Item → Entry) :
    (t.map f).Lists content s (entries.map fun e => e.bind f) where
  holds := h.holds
  sound := h.sound.restart
  whole := by
    show (t.cursor.restart.restart.remaining content).map (fun e => e.bind f) = _
    rw [Cursor.restart_restart, h.whole]

theorem atomize (h : t.Lists content s entries) (F : Forest) :
    (t.atomize F).Lists content s (entries.flatMap (Entry.atomized F)) where
  holds := h.holds
  sound := h.sound.restart
  whole := by
    show (t.cursor.restart.restart.remaining content).flatMap F.nodeValues.expansion = _
    rw [Cursor.restart_restart, h.whole, Pool.Follows.expansion_nodeValues]

theorem toList (h : t.Lists content s entries) :
    ∃ s', t.toList s = (collect entries, s') ∧ s.Follows content s.buffers.size s' :=
  h.left.toList

/-- The first item is that of the entries; a first error fails. -/
theorem first_nil (h : t.Lists content s []) :
    ∃ s', t.first s = (.ok none, s') ∧ s.Follows content s.buffers.size s' := by
  obtain ⟨c', s', hfetch, hfollows⟩ := h.left.fetch_nil
  exact ⟨s', Fetch.bind_ok hfetch, hfollows⟩

theorem first_ok {x : Item} (h : t.Lists content s (.ok x :: entries)) :
    ∃ s', t.first s = (.ok (some x), s') ∧ s.Follows content s.buffers.size s' := by
  obtain ⟨c', s', hfetch, -, hfollows⟩ := h.left.fetch_ok
  exact ⟨s', Fetch.bind_ok hfetch, hfollows⟩

theorem first_error {e : Error} (h : t.Lists content s (.error e :: entries)) :
    ∃ s', t.first s = (.error e, s') ∧ s.Follows content s.buffers.size s' := by
  obtain ⟨s', hfetch, hfollows⟩ := h.left.fetch_error
  exact ⟨s', Fetch.bind_error hfetch, hfollows⟩

/-- A buffered stream has the same entries up to the first error, and none behind it if it was
    not there already. -/
theorem buffered (h : t.Lists content s entries) :
    ∃ content' s' b entries', t.buffered s = (.ok b, s') ∧ b.Fresh ∧
      b.Lists content' s' entries' ∧ upToError entries' = upToError entries := by
  by_cases hthere : t.cursor.isMaterialized = true
  · refine ⟨content, s, t.restart, entries, ?_, t.fresh_restart, h.restart, rfl⟩
    simp only [Stream.buffered, hthere, ↓reduceIte]
  · have hbelow : ∀ i < s.buffers.size,
        content i = Function.update content s.buffers.size (upToError entries) i :=
      fun i hi => (Function.update_of_ne (Nat.ne_of_lt hi) _ _).symm
    have hnew : Function.update content s.buffers.size (upToError entries) s.buffers.size =
        upToError entries := Function.update_self _ _ _
    refine ⟨_, (s.buffer t.cursor).1, ofCursor (s.buffer t.cursor).2, upToError entries, ?_, rfl,
      ⟨h.holds.buffer h.sound hbelow (by rw [hnew, h.whole]),
        ⟨?_, ⟨#[], some t.cursor.restart, none⟩, ?_, .inl (Nat.le_refl _)⟩, hnew⟩,
      upToError_upToError entries⟩
    · simp only [Stream.buffered, hthere]
      rfl
    · rw [s.size_buffer]
      exact Nat.lt_succ_self _
    · exact Array.getElem?_push_size

end Lists

/-! ### Going on to the end -/

/-- Going on from a stream gives the items one after the other, and then nothing more or an
    error. -/
inductive Drains : Stream → Store → List Item → Option Error → Prop
  | finished {t t' : Stream} {s s' : Store} (h : t.moveNext s = (.ok false, t', s')) :
    Drains t s [] none
  | failed {t t' : Stream} {s s' : Store} {e : Error} (h : t.moveNext s = (.error e, t', s')) :
    Drains t s [] (some e)
  | item {t t' : Stream} {s s' : Store} {x : Item} {l : List Item} {fault : Option Error}
    (h : t.moveNext s = (.ok true, t', s')) (hx : t'.current = .ok x) (hl : Drains t' s' l fault) :
    Drains t s (x :: l) fault

/-- A stream that is not finished gives the entries that its cursor has left. -/
theorem drains_of_left (h : t.cursor.Left content s entries) (ht : t.state ≠ .finished) :
    t.Drains s (leadingItems entries) (firstError? entries) := by
  induction entries generalizing t s with
  | nil =>
    obtain ⟨c', s', hnext, -⟩ := h.next_nil
    exact .finished (by rw [moveNext, if_neg ht, hnext])
  | cons e entries ih =>
    obtain ⟨c', s', hnext, hleft, -, -⟩ := h.next_cons
    cases e with
    | error e => exact .failed (by rw [moveNext, if_neg ht, hnext])
    | ok x =>
      have hmove : t.moveNext s = (.ok true, ⟨c', .iterating, some x, t.position + 1⟩, s') := by
        rw [moveNext, if_neg ht, hnext]
      have hrest := ih (t := ⟨c', .iterating, some x, t.position + 1⟩) hleft (by simp)
      exact .item hmove rfl hrest

/-- A stream at its start gives its leading items, and then the first error if there is one. -/
theorem Lists.drains (h : t.Lists content s entries) (ht : t.Fresh) :
    t.Drains s (leadingItems entries) (firstError? entries) := by
  have hcursor : t.cursor.restart = t.cursor := congrArg Stream.cursor ht
  have hstate : t.state = .notStarted := (congrArg Stream.state ht).symm
  have hleft := h.left
  rw [hcursor] at hleft
  exact drains_of_left hleft (by rw [hstate]; simp)

/-! ### Streams that are made -/

/-- A stream that reads a handle lists the sequence of the handle. -/
theorem Lists.of_handle {p : Pool} {rs : List Replay} {i : Nat} (h : p.Follows content rs)
    (ht : t.cursor = p.cursor i) : t.Lists content p.store (Replay.shapeOf rs i).entries := by
  obtain ⟨hsound, hwhole⟩ := h.cursor i
  rw [← ht] at hsound hwhole
  exact ⟨h.holds, hsound, hwhole⟩

/-- A stream that reads a handle which some actions lead to, at the moment behind the last of
    them; `entries` are those of its sequence. Where the stream is does not matter. -/
def Made (s : Store) (t : Stream) (entries : List Entry) : Prop :=
  ∃ (actions : List Action) (i : Nat),
    s = (Pool.run actions).store ∧ t.cursor = (Pool.run actions).cursor i ∧
      entries = (Replay.shapeOf (Replay.run actions) i).entries

theorem Made.lists (h : t.Made s entries) : ∃ content, t.Lists content s entries := by
  obtain ⟨actions, i, rfl, hcursor, rfl⟩ := h
  obtain ⟨content, hfollows⟩ := Pool.exists_follows actions
  exact ⟨content, .of_handle hfollows hcursor⟩

end Stream

end XPathData
