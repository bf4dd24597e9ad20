import XPathData.Proofs.Sequence.Conversion
import XPathData.Proofs.Sequence.Ending

/-! # Coercions read their operand once

  Casts, treating and the tests that belong to them look at the same operand several times: the
  gate counts its items, and the items are read again to be cast or checked. All these readings
  go through one buffer, or through parts that are there already. So all of them together, with
  whatever is done to the result, ask a producer for what one pass over the operand asks for.
  Where one item is the most, the gate has read two entries at most, and nothing behind it reads
  more.

  * `Cursor.MadeOver`, `Store.ReadThrough` — what is made over a cursor, and read through it
  * `Stream.gate_reads` — the gate reads two entries at most
  * `Coercion.perform_items` — behind the gate all readings go through what it gave
  * `Stream.coerced_in_one_pass` — coercions read their operand once
-/

namespace XPathData

variable {content : Nat → List Entry} {s s' s₁ : Store} {I : Finset Nat} {name : String}
  {entries : List Entry}

/-! ### Failures that are caught -/

namespace Fetch

variable {α : Type} {x : Fetch α} {f : Error → Fetch α}

theorem tryCatch_ok {a : α} (h : x s = (.ok a, s')) : (tryCatch x f : Fetch α) s = (.ok a, s') := by
  simp only [tryCatch, tryCatchThe, MonadExceptOf.tryCatch, ExceptT.tryCatch, ExceptT.mk, bind,
    StateT.bind, h]
  rfl

theorem tryCatch_error {e : Error} (h : x s = (.error e, s')) :
    (tryCatch x f : Fetch α) s = f e s' := by
  simp only [tryCatch, tryCatchThe, MonadExceptOf.tryCatch, ExceptT.tryCatch, ExceptT.mk, bind,
    StateT.bind, h]

end Fetch

/-! ### Readings through a cursor -/

/-- The cursors that coercions make over a given one. -/
inductive Cursor.MadeOver (c : Cursor) : Cursor → Prop
  | self : MadeOver c c
  | items (l : List Item) : MadeOver c (.ofList l)
  | map {d : Cursor} (f : Item → Entry) (h : MadeOver c d) : MadeOver c (.map f d.restart)
  | atomize {d : Cursor} (F : Forest) (h : MadeOver c d) : MadeOver c (d.atomize F)

/-- A store behind readings of cursors that are made over a given one. -/
inductive Store.ReadThrough (c : Cursor) : Store → Store → Prop
  | refl (s : Store) : ReadThrough c s s
  | read {d : Cursor} {s s' : Store} (hd : c.MadeOver d) (k : Nat)
    (h : ReadThrough c (d.restart.nexts k s).2 s') : ReadThrough c s s'

theorem Store.ReadThrough.trans {c : Cursor} {s s' s'' : Store} (h : s.ReadThrough c s')
    (h' : s'.ReadThrough c s'') : s.ReadThrough c s'' := by
  induction h with
  | refl s => exact h'
  | read hd k hrest ih => exact .read hd k (ih h')

theorem Cursor.BehindBuffers.madeOver {c d : Cursor} (h : c.BehindBuffers content name I s)
    (hd : c.MadeOver d) : d.BehindBuffers content name I s := by
  induction hd with
  | self => exact h
  | items l => exact ⟨h.holds, h.closed, trivial, rfl, trivial⟩
  | map f hd ih => exact ⟨h.holds, h.closed, ih.restart.sound, ih.restart.leaves, ih.restart.within⟩
  | atomize F hd ih =>
    exact ⟨h.holds, h.closed, ih.restart.sound, ih.restart.leaves, ih.restart.within⟩

theorem Cursor.BehindBuffers.readThrough {c : Cursor} (h : c.BehindBuffers content name I s)
    (hread : s.ReadThrough c s') : s.KeepsAccount content name I s' := by
  induction hread with
  | refl s => exact .refl h.holds h.closed
  | read hd k hrest ih =>
    have hkeeps := ((h.madeOver hd).restart.nexts k).2
    exact hkeeps.trans (ih (h.later hkeeps))

theorem Cursor.Ended.madeOver {c d : Cursor} (h : c.Ended s) (hd : c.MadeOver d) : d.Ended s := by
  induction hd with
  | self => exact h
  | items l => trivial
  | map f hd ih => exact Cursor.ended_restart.2 ih
  | atomize F hd ih => exact Cursor.ended_restart.2 ih

theorem Cursor.Ended.readThrough {c : Cursor} (h : c.Ended s) (hread : s.ReadThrough c s') :
    s' = s := by
  induction hread with
  | refl s => rfl
  | read hd k hrest ih =>
    have hsame := (Cursor.ended_restart.2 (h.madeOver hd)).nexts k
    rw [hsame] at ih
    exact ih h

namespace Cursor

/-- A reading that fails where the entry is an error asks for that entry all the same. -/
theorem fetch_next (c : Cursor) (s : Store) :
    ∃ r, c.fetch s = (r, (c.next s).2.2) ∧
      ∀ x? c', r = .ok (x?, c') → c' = (c.next s).2.1 ∧ (x? = none → (c.next s).1 = none) := by
  unfold fetch
  rcases c.next s with ⟨_ | (_ | x), c', s'⟩
  · exact ⟨_, rfl, fun x? d h => by cases h; exact ⟨rfl, fun _ => rfl⟩⟩
  · exact ⟨_, rfl, fun x? d h => by cases h⟩
  · exact ⟨_, rfl, fun x? d h => by cases h; exact ⟨rfl, fun h => by cases h⟩⟩

/-- A reading of a whole sequence asks for some number of entries. -/
theorem readItems_store {σ α ε : Type} (raise : Error → ε)
    (f : σ → Item → Progress σ (Except ε α)) (finish : σ → α) (start : σ) (c : Cursor)
    (s : Store) : ∃ k, (c.readItems raise f finish start s).2 = (c.nexts k s).2 := by
  unfold readItems read
  generalize c.stepsLeft s + 1 = limit
  induction limit generalizing start c s with
  | zero => exact ⟨0, rfl⟩
  | succ limit ih =>
    rcases hr : c.next s with ⟨e, c', s'⟩
    have hone : (c.nexts 1 s).2 = s' := by simp only [nexts, hr]
    rcases e with _ | (e | x)
    · exact ⟨1, by simp only [readWithin, hr, hone]⟩
    · exact ⟨1, by simp only [readWithin, hr, hone]⟩
    · simp only [readWithin, hr]
      cases f start x with
      | stop r => exact ⟨1, hone.symm⟩
      | more state =>
        obtain ⟨k, hk⟩ := ih state c' s'
        exact ⟨k + 1, by simp only [nexts, hr, hk]⟩

end Cursor

namespace Stream

variable {t b u : Stream} {F : Forest} {type : ItemType} {occ : Occurrence} {T : SequenceType}
  {code : ErrorCode} {literal : Bool} {ctx : ValueContext} {c : Cursor}

/-! ### The first item -/

theorem first_store (t : Stream) (s : Store) :
    ∃ r, t.first s = (r, (t.cursor.restart.nexts 1 s).2) := by
  obtain ⟨r, hfetch, -⟩ := t.cursor.restart.fetch_next s
  cases r with
  | error e => exact ⟨_, Fetch.bind_error hfetch⟩
  | ok a => exact ⟨_, Fetch.bind_ok hfetch⟩

theorem isEmpty_store (t : Stream) (s : Store) :
    ∃ k, (t.isEmpty s).2 = (t.cursor.restart.nexts k s).2 := by
  cases hexact : t.cursor.exactLength? s with
  | some n => exact ⟨0, by simp only [isEmpty, hexact, Cursor.nexts]⟩
  | none =>
    obtain ⟨r, hfirst⟩ := t.first_store s
    refine ⟨1, ?_⟩
    simp only [isEmpty, hexact]
    cases r with
    | error e => rw [Fetch.bind_error hfirst]
    | ok x? =>
      rw [Fetch.bind_ok hfirst]
      rfl

/-! ### The gate -/

/-- The gate reads two entries at most, and what it lets pass is its copy or has no items.
    Where one item is the most it has read its copy to the end. -/
theorem gate_reads (occ : Occurrence) (code : ErrorCode) (hb : t.buffered s = (.ok b, s₁))
    (hs : s₁.Holds content) (hsound : b.cursor.Sound s₁ s₁.buffers.size)
    (hthere : b.cursor.isMaterialized = true) :
    ∃ k ≤ 2, (t.gate occ code s).2 = (b.cursor.restart.nexts k s₁).2 ∧
      ∀ u, (t.gate occ code s).1 = .ok u → b.cursor.MadeOver u.cursor ∧
        (occ.allowsMany = false → u.cursor.Ended (t.gate occ code s).2) := by
  have hread := Cursor.next_reads hs hsound.restart
  have hwalks := Cursor.next_walks hs hsound.restart
    (by rw [Cursor.isMaterialized_restart, hthere]) (Cursor.walked_restart b.cursor)
  obtain ⟨r, hfetch, hr⟩ := b.cursor.restart.fetch_next s₁
  unfold gate
  rw [Fetch.bind_ok hb]
  rcases r with e | ⟨_ | x, c⟩
  · rw [Fetch.bind_error hfetch]
    exact ⟨1, by omega, rfl, fun u hu => by cases hu⟩
  · rw [Fetch.bind_ok hfetch]
    simp only
    split
    · exact ⟨1, by omega, rfl, fun u hu => by cases hu; exact ⟨.items [], fun _ => trivial⟩⟩
    · exact ⟨1, by omega, rfl, fun u hu => by cases hu⟩
  · obtain ⟨rfl, -⟩ := hr _ _ rfl
    rw [Fetch.bind_ok hfetch]
    cases hmany : occ.allowsMany with
    | true =>
      simp only [↓reduceIte]
      exact ⟨1, by omega, rfl, fun u hu => by cases hu; exact ⟨.self, fun h => by cases h⟩⟩
    | false =>
      -- One more entry tells whether the copy is at its end.
      have hread' := Cursor.next_reads hread.follows.holds hread.sound
      have hwalks' := Cursor.next_walks hread.follows.holds hread.sound (by
        rw [← Cursor.isMaterialized_restart, hread.restart, Cursor.isMaterialized_restart,
          Cursor.isMaterialized_restart, hthere]) hwalks.1
      obtain ⟨r', hfetch', hr'⟩ :=
        (b.cursor.restart.next s₁).2.1.fetch_next (b.cursor.restart.next s₁).2.2
      simp only [Bool.false_eq_true, ↓reduceIte]
      rcases r' with e | ⟨_ | y, c'⟩
      · rw [Fetch.bind_error hfetch']
        exact ⟨2, by omega, rfl, fun u hu => by cases hu⟩
      · obtain ⟨rfl, hnone⟩ := hr' _ _ rfl
        rw [Fetch.bind_ok hfetch']
        -- The cursor at the end has the shape of the copy, whose buffers are at their ends then.
        have hended := Cursor.ended_restart.2 (hwalks'.2 (hnone rfl))
        rw [hread'.restart, hread.restart, Cursor.ended_restart, Cursor.ended_restart] at hended
        exact ⟨2, by omega, rfl, fun u hu => by cases hu; exact ⟨.self, fun _ => hended⟩⟩
      · rw [Fetch.bind_ok hfetch']
        exact ⟨2, by omega, rfl, fun u hu => by cases hu⟩

/-! ### Behind the gate -/

/-- A result whose store is behind readings through a cursor, and whose stream is made over it. -/
structure ResultOver (c : Cursor) (s : Store) (r : Except Error Stream × Store) : Prop where
  read : s.ReadThrough c r.2
  made : ∀ u, r.1 = .ok u → c.MadeOver u.cursor

theorem ResultOver.ok (hread : s.ReadThrough c s') (hu : c.MadeOver u.cursor) :
    ResultOver c s (.ok u, s') where
  read := hread
  made _ hu' := by
    cases hu'
    exact hu

theorem ResultOver.error {e : Error} (hread : s.ReadThrough c s') :
    ResultOver c s (.error e, s') where
  read := hread
  made _ hu := by cases hu

/-- The only item is read once more, and its values are cast. -/
theorem castSingle_over {a : AtomicType} (h : c.MadeOver t.cursor) :
    ResultOver c s (castSingle F t a occ literal ctx s) := by
  obtain ⟨r, hfirst⟩ := t.first_store s
  have hread : s.ReadThrough c (t.cursor.restart.nexts 1 s).2 := .read h 1 (.refl _)
  unfold castSingle
  rcases r with e | _ | x
  · rw [Fetch.bind_error hfirst]
    exact .error hread
  · rw [Fetch.bind_ok hfirst]
    exact .ok hread h
  · rw [Fetch.bind_ok hfirst]
    cases hvalues : x.atomize F with
    | error e =>
      simp only [hvalues]
      rw [Fetch.bind_error (Fetch.lift _)]
      exact .error hread
    | ok values =>
      simp only [hvalues]
      rw [Fetch.bind_ok (Fetch.lift _)]
      rcases values with _ | ⟨v, _ | ⟨w, values⟩⟩
      · simp only
        split
        · exact .ok hread (.items [])
        · exact .error hread
      · cases hcast : castValue v a literal ctx with
        | error e =>
          simp only [hcast]
          rw [Fetch.bind_error (Fetch.lift _)]
          exact .error hread
        | ok w =>
          simp only [hcast]
          rw [Fetch.bind_ok (Fetch.lift _)]
          exact .ok hread (.items [.atomic w])
      · exact .error hread

/-- A cast reads, and makes its result, over what the gate gave. -/
theorem cast_over {g : Except Error Stream} (hgate : t.gate occ .typeError s = (g, s'))
    (hg : ∀ u, g = .ok u → c.MadeOver u.cursor) :
    ResultOver c s' (t.cast F (.items type occ) literal ctx s) := by
  unfold cast
  cases g with
  | error e =>
    simp only
    rw [Fetch.bind_error hgate]
    exact .error (.refl s')
  | ok u =>
    have hu := hg u rfl
    simp only
    rw [Fetch.bind_ok hgate]
    cases type with
    | atomic a =>
      simp only
      split
      · exact .ok (.refl s') (.map _ (.atomize F hu))
      · exact castSingle_over hu
    | item | node | nodeTest => exact .ok (.refl s') (.map _ hu)

theorem treat_over {g : Except Error Stream} (hgate : t.gate occ .treatFailed s = (g, s'))
    (hg : ∀ u, g = .ok u → c.MadeOver u.cursor) :
    ResultOver c s' (t.treat F (.items type occ) s) := by
  unfold treat
  cases g with
  | error e =>
    simp only
    rw [Fetch.bind_error hgate]
    exact .error (.refl s')
  | ok u =>
    have hu := hg u rfl
    simp only
    rw [Fetch.bind_ok hgate]
    split
    · exact .ok (.refl s') hu
    · exact .ok (.refl s') (.map _ hu)

theorem requireEmpty_over (t : Stream) (code : ErrorCode) (s : Store) :
    ResultOver (.ofList []) (t.isEmpty s).2 (t.requireEmpty code s) := by
  rcases hempty : t.isEmpty s with ⟨_ | answer, s'⟩
  · rw [requireEmpty, Fetch.bind_error hempty]
    exact .error (.refl s')
  · rw [requireEmpty, Fetch.bind_ok hempty]
    cases answer with
    | true => exact .ok (.refl s') .self
    | false => exact .error (.refl s')

/-- The test drains what the cast gives. -/
theorem castable_over (h : ResultOver c s' (t.cast F T literal ctx s)) :
    s'.ReadThrough c (t.castable F T literal ctx s).2 := by
  rcases hcast : t.cast F T literal ctx s with ⟨r, s₁⟩
  rw [hcast] at h
  unfold castable
  cases r with
  | error e =>
    rw [Fetch.tryCatch_error (Fetch.bind_error hcast)]
    exact h.read
  | ok u =>
    obtain ⟨k, hk⟩ := Cursor.readItems_store id (fun l x => .more (x :: l)) List.reverse []
      u.cursor.restart s₁
    have hread : s'.ReadThrough c (u.toList s₁).2 :=
      h.read.trans (.read (h.made u rfl) k (hk ▸ .refl _))
    rcases hr : u.toList s₁ with ⟨items, s₂⟩
    rw [hr] at hread
    cases items with
    | error e =>
      have hdrain : (discard u.toList : Fetch PUnit) s₁ = (.error e, s₂) := Fetch.bind_error hr
      rw [Fetch.tryCatch_error ((Fetch.bind_ok hcast).trans (Fetch.bind_error hdrain))]
      exact hread
    | ok items =>
      have hdrain : (discard u.toList : Fetch PUnit) s₁ = (.ok (), s₂) := Fetch.bind_ok hr
      rw [Fetch.tryCatch_ok ((Fetch.bind_ok hcast).trans (Fetch.bind_ok hdrain))]
      exact hread

/-- The test goes through what the gate gives. -/
theorem instanceOf_over {g : Except Error Stream} (hgate : t.gate occ .typeError s = (g, s'))
    (hg : ∀ u, g = .ok u → c.MadeOver u.cursor) :
    s'.ReadThrough c (t.instanceOf F (.items type occ) s).2 := by
  simp only [instanceOf, hgate]
  cases g with
  | error e =>
    simp only
    split <;> exact .refl s'
  | ok u =>
    obtain ⟨k, hk⟩ := Cursor.readItems_store id (countItem F type occ) occ.admits 0
      u.cursor.restart s'
    simp only [hasType_items, hk]
    exact .read (hg u rfl) k (.refl _)

/-! ### The copy that the gate reads -/

/-- The copy that the gate reads is there or reads a new buffer, which owes what one pass over the
    sequence can ask for. -/
theorem Lists.buffered_behind (h : t.Lists content s entries) (hin : t.cursor.Within I)
    (hclosed : s.Closed I) (name : String) :
    ∃ content' b s₁, t.buffered s = (.ok b, s₁) ∧ b.cursor.isMaterialized = true ∧
      b.cursor.BehindBuffers content' name (insert s.buffers.size I) s₁ ∧
      ∀ d, s₁.account d name (insert s.buffers.size I) ≤
        s.account d name I + t.cursor.restart.owing d name := by
  obtain ⟨content', s₁, b, entries', hbuffered, -, hb, -⟩ := h.buffered
  refine ⟨content', b, s₁, hbuffered, ?_⟩
  cases hthere : t.cursor.isMaterialized with
  | true =>
    simp only [Stream.buffered, hthere, ↓reduceIte] at hbuffered
    cases hbuffered
    refine ⟨?_, ?_, fun d => ?_⟩
    · rw [Stream.restart, ofCursor, Cursor.isMaterialized_restart, hthere]
    · refine ⟨hb.holds, hclosed.insert_size, hb.sound, ?_, ?_⟩
      · rw [Stream.restart, ofCursor, Cursor.leaves_restart, Cursor.leaves_of_materialized hthere]
      · exact (Cursor.within_restart.2 hin).mono (Finset.subset_insert _ _)
    · rw [Store.account_insert_size]
      exact Nat.le_add_right _ _
  | false =>
    simp only [Stream.buffered, hthere] at hbuffered
    cases hbuffered
    exact ⟨rfl, ⟨hb.holds, hclosed.buffer hin, hb.sound, rfl, Finset.mem_insert_self _ _⟩,
      fun d => Nat.le_of_eq (Store.account_buffer t.cursor)⟩

end Stream

/-! ### Coercions -/

/-- What a sequence is brought to a type by. -/
inductive Coercion where
  | cast (literal : Bool) (ctx : ValueContext)
  | treat
  | castable (literal : Bool) (ctx : ValueContext)
  | instanceOf

/-- The store behind a result, with a handle of the stream if there is one. -/
def Pool.ofResult : Except Error Stream × Store → Pool
  | (.ok t, s) => ⟨s, [⟨t.cursor, []⟩]⟩
  | (.error _, s) => ⟨s, []⟩

/-- A pool whose store is behind readings through a cursor, and whose handles are made over it. -/
structure Pool.Over (c : Cursor) (s : Store) (p : Pool) : Prop where
  read : s.ReadThrough c p.store
  made : ∀ h ∈ p.handles, c.MadeOver h.cursor

theorem Pool.Over.ofResult {c : Cursor} {r : Except Error Stream × Store}
    (h : Stream.ResultOver c s r) : (Pool.ofResult r).Over c s := by
  rcases r with ⟨_ | u, s'⟩
  · exact ⟨h.read, fun g hg => (by cases hg)⟩
  · refine ⟨h.read, fun g hg => ?_⟩
    rw [List.mem_singleton.1 hg]
    exact h.made u rfl

/-- Where a cursor reads producers only through buffers, neither the readings that led to such a
    pool nor copying and reading its handles raise the account. -/
theorem Pool.Over.account_le {c : Cursor} {p : Pool} (h : p.Over c s)
    (hc : c.BehindBuffers content name I s) (d : Demand) (moves : List Move) :
    (p.moveAll moves).store.account d name I ≤ s.account d name I := by
  have hkeeps := hc.readThrough h.read
  have hpool : p.BehindBuffers content name I :=
    ⟨hkeeps.follows.holds, hkeeps.closed, fun g hg => (hc.later hkeeps).madeOver (h.made g hg)⟩
  exact Nat.le_trans ((hpool.moveAll moves).account d) (hkeeps.account d)

namespace Coercion

variable {t : Stream} {F : Forest} {type : ItemType} {occ : Occurrence} {c : Cursor}

/-- Performs a coercion; the result has a handle if it is a sequence. -/
def perform (k : Coercion) (F : Forest) (T : SequenceType) (t : Stream) (s : Store) : Pool :=
  match k with
  | cast literal ctx => .ofResult (t.cast F T literal ctx s)
  | treat => .ofResult (t.treat F T s)
  | castable literal ctx => ⟨(t.castable F T literal ctx s).2, []⟩
  | instanceOf => ⟨(t.instanceOf F T s).2, []⟩

/-- The code that a wrong number of items fails with. -/
def code : Coercion → ErrorCode
  | treat => .treatFailed
  | cast .. | castable .. | instanceOf => .typeError

/-- Behind the gate all readings go through what it gave. -/
theorem perform_items (k : Coercion) (F : Forest) (type : ItemType) {g : Except Error Stream}
    (hgate : t.gate occ k.code s = (g, s')) (hg : ∀ u, g = .ok u → c.MadeOver u.cursor) :
    (k.perform F (.items type occ) t s).Over c s' := by
  cases k with
  | cast literal ctx => exact .ofResult (Stream.cast_over hgate hg)
  | treat => exact .ofResult (Stream.treat_over hgate hg)
  | castable literal ctx =>
    exact ⟨Stream.castable_over (Stream.cast_over hgate hg), fun h hh => (by cases hh)⟩
  | instanceOf => exact ⟨Stream.instanceOf_over hgate hg, fun h hh => (by cases hh)⟩

/-- Against the empty sequence nothing is read behind the question whether there are items. -/
theorem perform_empty (k : Coercion) (F : Forest) (t : Stream) (s : Store) :
    (k.perform F .empty t s).Over (.ofList []) (t.isEmpty s).2 := by
  cases k with
  | cast literal ctx => exact .ofResult (Stream.requireEmpty_over t .typeError s)
  | treat => exact .ofResult (Stream.requireEmpty_over t .treatFailed s)
  | castable literal ctx =>
    exact ⟨Stream.castable_over (Stream.requireEmpty_over t .typeError s),
      fun h hh => (by cases hh)⟩
  | instanceOf => exact ⟨.refl _, fun h hh => (by cases hh)⟩

end Coercion

namespace Stream

variable {t : Stream}

/-! ### One pass -/

/-- A coercion and all that is done to its result ask a producer for no more than a fresh copy of
    the operand can ask for. -/
theorem Lists.account_coerced (h : t.Lists content s entries) (hin : t.cursor.Within I)
    (hclosed : s.Closed I) (k : Coercion) (F : Forest) (T : SequenceType) (moves : List Move)
    (d : Demand) (name : String) :
    d.met (((k.perform F T t s).moveAll moves).store.tally name) ≤
      s.account d name I + t.cursor.restart.owing d name := by
  cases T with
  | empty =>
    obtain ⟨m, hm⟩ := t.isEmpty_store s
    have hfollows := (Cursor.nexts_reads m h.holds h.sound.restart).1
    have hpay := Cursor.nexts_pays d name m h.holds hclosed h.sound.restart
      (Cursor.within_restart.2 hin)
    have hover := k.perform_empty F t s
    rw [hm] at hover
    have hlist : (Cursor.ofList []).BehindBuffers content name I
        (t.cursor.restart.nexts m s).2 := ⟨hfollows.holds, hpay.closed, trivial, rfl, trivial⟩
    have hpass := hover.account_le hlist d moves
    have haccount := hpay.account
    rw [Store.account] at hpass
    omega
  | items type occ =>
    obtain ⟨content', b, s₁, hb, hthere, hbehind, hbuffer⟩ :=
      h.buffered_behind hin hclosed name
    obtain ⟨m, -, hm, hmade⟩ := gate_reads occ k.code hb hbehind.holds
      hbehind.sound hthere
    rcases hgate : t.gate occ k.code s with ⟨g, s₂⟩
    rw [hgate] at hm hmade
    simp only at hm
    subst hm
    have hread := (hbehind.restart.nexts m).2
    have hover := k.perform_items F type hgate
      fun u hu => (hmade u hu).1
    have hpass := hover.account_le (hbehind.later hread) d moves
    -- The new buffer, the gate, and what comes behind it.
    calc d.met (((k.perform F (.items type occ) t s).moveAll moves).store.tally name)
        ≤ ((k.perform F (.items type occ) t s).moveAll moves).store.account d name
            (insert s.buffers.size I) := Nat.le_add_right _ _
      _ ≤ (b.cursor.restart.nexts m s₁).2.account d name (insert s.buffers.size I) := hpass
      _ ≤ s₁.account d name (insert s.buffers.size I) := hread.account d
      _ ≤ s.account d name I + t.cursor.restart.owing d name := hbuffer d

/-- Between two stores at most `limit` entries of a stream were read: that many readings of its
    buffered copy lead from one to the other. If the copy reads a new buffer, this has taken no
    more entries from the stream. -/
def ReadUpTo (t : Stream) (limit : Nat) (s s' : Store) : Prop :=
  ∃ b s₁ k, t.buffered s = (.ok b, s₁) ∧ k ≤ limit ∧ s' = (b.cursor.restart.nexts k s₁).2 ∧
    (t.cursor.isMaterialized = false → s'.taken s.buffers.size ≤ limit)

theorem Lists.taken_buffered (h : t.Lists content s entries) {b : Stream} {k : Nat}
    (hb : t.buffered s = (.ok b, s₁)) (hnew : t.cursor.isMaterialized = false) :
    (b.cursor.restart.nexts k s₁).2.taken s.buffers.size ≤ k := by
  obtain ⟨content', s₂, b', entries', hbuffered, -, hlists, -⟩ := h.buffered
  rw [hb] at hbuffered
  cases hbuffered
  simp only [Stream.buffered, hnew] at hb
  cases hb
  have htaken := Cursor.nexts_taken k hlists.holds hlists.sound.restart
  have hnone : (s.buffer t.cursor).1.taken s.buffers.size = 0 := by
    simp [Store.taken, Store.buffer]
  rw [hnone, Nat.zero_add] at htaken
  exact htaken

/-- Where one item is the most, nothing is read behind the gate. -/
theorem Lists.read_two (h : t.Lists content s entries) (k : Coercion) (F : Forest)
    (type : ItemType) {occ : Occurrence} (hmany : occ.allowsMany = false) :
    t.ReadUpTo 2 s (k.perform F (.items type occ) t s).store := by
  obtain ⟨content', b, s₁, hb, hthere, hbehind, -⟩ :=
    h.buffered_behind h.sound.within_range h.holds.closed_range ""
  obtain ⟨m, hm, hstore, hmade⟩ := gate_reads occ k.code hb hbehind.holds
    hbehind.sound hthere
  rcases hgate : t.gate occ k.code s with ⟨g, s₂⟩
  rw [hgate] at hstore hmade
  have hsame : (k.perform F (.items type occ) t s).store = s₂ := by
    cases g with
    | error e =>
      have hover := k.perform_items (c := .ofList []) F type hgate
        fun u hu => (by cases hu)
      exact Cursor.Ended.readThrough (c := .ofList []) trivial hover.read
    | ok u =>
      have hover := k.perform_items (c := u.cursor) F type hgate
        fun v hv => (by cases hv; exact .self)
      exact ((hmade u rfl).2 hmany).readThrough hover.read
  rw [hsame]
  refine ⟨b, s₁, m, hb, hm, hstore, fun hnew => ?_⟩
  have htaken := h.taken_buffered (k := m) hb hnew
  rw [← hstore] at htaken
  exact Nat.le_trans htaken hm

/-- Whatever a stream is put together from and however far it was read: during a coercion and all
    copying and reading of its result, each producer that the stream reads without a buffer between
    them is started once at most and gives each of its entries once at most. Producers are told
    apart by their names, so those of one name are counted together. What can come on top is only
    what the buffers `I` below the stream have still to read of that name; `I` may be the set of
    all buffers, and is empty for a stream that reads none. Where one item is the most, at most two
    entries of the stream are read before the coercion is through. -/
theorem coerced_in_one_pass (h : t.Made s entries) (hin : t.cursor.Within I)
    (hclosed : s.Closed I) (k : Coercion) (F : Forest) (T : SequenceType) :
    (∀ (moves : List Move) (name : String),
      let s' := ((k.perform F T t s).moveAll moves).store
      (s'.tally name).runs ≤
          (s.tally name).runs + (t.cursor.leaves name).length + s.owing .start name I ∧
        (s'.tally name).produced ≤ (s.tally name).produced +
          (t.cursor.leaves name).flatten.length + s.owing .entry name I) ∧
      ∀ type occ, T = .items type occ → occ.allowsMany = false →
        t.ReadUpTo 2 s (k.perform F T t s).store := by
  obtain ⟨content, hlists⟩ := h.lists
  refine ⟨fun moves name => ⟨?_, ?_⟩, ?_⟩
  · have hstart := hlists.account_coerced hin hclosed k F T moves .start name
    rw [Cursor.owing_restart, Store.account] at hstart
    simp only [Demand.met, Demand.total] at hstart
    omega
  · have hentry := hlists.account_coerced hin hclosed k F T moves .entry name
    rw [Cursor.owing_restart, Store.account] at hentry
    simp only [Demand.met, Demand.total] at hentry
    omega
  · rintro type occ rfl hmany
    exact hlists.read_two k F type hmany

/-- A concatenation of a buffer and a producer `q` of one value: `q` is started once, however
    often the result of the cast is copied and read. -/
theorem coerced_in_one_pass_concat :
    let p := Pool.run [.produce "p" [.ok (.atomic (.boolean true))], .buffer 0,
      .produce "q" [.ok (.atomic (.boolean false))], .concat 1 2]
    let t := ofCursor (p.cursor 3)
    let k := Coercion.cast false .standard
    let T := SequenceType.items (.atomic .boolean) .zeroOrOne
    t.Made p.store [.ok (.atomic (.boolean true)), .ok (.atomic (.boolean false))] ∧
      t.cursor.Within {0} ∧ p.store.Closed {0} ∧
      (∀ moves, let s' := ((k.perform (.empty .plain) T t p.store).moveAll moves).store
        (s'.tally "q").runs ≤ 1 ∧ (s'.tally "q").produced ≤ 1) ∧
      t.ReadUpTo 2 p.store (k.perform (.empty .plain) T t p.store).store := by
  intro p t k T
  have hmade : t.Made p.store [.ok (.atomic (.boolean true)), .ok (.atomic (.boolean false))] :=
    ⟨_, 3, rfl, rfl, rfl⟩
  have hin : t.cursor.Within {0} := ⟨Finset.mem_singleton_self 0, trivial⟩
  -- The source of the buffer reads no other buffer.
  have hclosed : p.store.Closed {0} := by
    intro i hi b c hb hc
    rw [Finset.mem_singleton.1 hi] at hb
    cases hb
    cases hc
    trivial
  have hbuffer : ∀ d : Demand, p.store.owing d "q" {0} = 0 := by
    intro d
    rw [Store.owing, Finset.sum_singleton]
    rfl
  obtain ⟨honce, htwo⟩ := coerced_in_one_pass hmade hin hclosed k (.empty .plain) T
  refine ⟨hmade, hin, hclosed, fun moves => ?_, htwo _ _ rfl rfl⟩
  have hq := honce moves "q"
  simp only [hbuffer] at hq
  exact hq

end Stream

end XPathData
