import XPathData.Proofs.Sequence.Remaining

/-! # The number of steps left

  `Cursor.stepsLeft` goes down through the sources of buffers by a depth. On a store that
  holds its contents the depth does not matter, so `stepsLeft` satisfies the equations of its
  own structure. They show that the bound of every cursor can only sink while other cursors
  are read.

  * `Cursor.stepsLeft_eq` — `stepsLeft` without a depth
  * `Cursor.stepsLeft_le_of_readers` — it is enough to look at the readers of buffers
  * `Store.Settles` — no bound is greater in the later store
-/

namespace XPathData

variable {s s' : Store} {n : Nat} {content content' : Nat → List Entry}

theorem Store.Holds.source_sound (hs : s.Holds content) {i : Nat} {b : Buffer} {c : Cursor}
    (hb : s.buffers[i]? = some b) (hc : b.source = some c) : c.Sound s i :=
  (hs i b hb).source_sound hc

namespace Cursor

/-! ### Depth -/

theorem Sound.below_size {c : Cursor} (h : c.Sound s n) : c.Sound s s.buffers.size := by
  induction c with
  | listed | producer => trivial
  | range => exact h
  | buffered b pos =>
    obtain ⟨-, buf, hbuf, hpos⟩ := h
    exact ⟨(Array.getElem?_eq_some_iff.1 hbuf).1, buf, hbuf, hpos⟩
  | append l r onRight ihl ihr => exact ⟨ihl h.1, ihr h.2⟩
  | map f input ih => exact ih h
  | expand nodes input pending ih => exact ih h
  | select op l r phase ihl ihr => exact ⟨ihl h.1, ihr h.2⟩

/-- Only the sources of buffers that are read count. -/
theorem stepsLeftWith_congr {inner inner' : Cursor → Nat} {c : Cursor} (hc : c.Sound s n)
    (h : ∀ i < n, ∀ b, s.buffers[i]? = some b → ∀ src, b.source = some src →
      inner src = inner' src) :
    c.stepsLeftWith inner s = c.stepsLeftWith inner' s := by
  induction c with
  | listed | range | producer => rfl
  | buffered i pos =>
    obtain ⟨hi, b, hb, -⟩ := hc
    have hsource : b.source.map inner = b.source.map inner' := by
      cases hsrc : b.source with
      | none => rfl
      | some src => simp [h i hi b hb src hsrc]
    simp only [stepsLeftWith, hb, hsource]
  | append l r onRight ihl ihr => simp only [stepsLeftWith, ihl hc.1, ihr hc.2]
  | map f input ih => simp only [stepsLeftWith, ih hc]
  | expand nodes input pending ih => simp only [stepsLeftWith, ih hc]
  | select op l r phase ihl ihr => simp only [stepsLeftWith, ihl hc.1, ihr hc.2]

/-- What is computed of a cursor looks through `inner` at the sources of the buffers that it
    reads, and at nothing else. -/
def LooksAtSources {α : Type} (s : Store) (F : (Cursor → α) → Cursor → α) : Prop :=
  ∀ (n : Nat) (c : Cursor) (inner inner' : Cursor → α), c.Sound s n →
    (∀ i < n, ∀ b, s.buffers[i]? = some b → ∀ src, b.source = some src →
      inner src = inner' src) →
    F inner c = F inner' c

/-- What is computed of a cursor and, down to a depth, of the sources of buffers is the same for
    two depths that reach all buffers that are read. -/
theorem eq_of_depths {α : Type} {F : (Cursor → α) → Cursor → α} {deep : Nat → Cursor → α}
    {start : Cursor → α} (hF : LooksAtSources s F) (hzero : deep 0 = F start)
    (hsucc : ∀ d, deep (d + 1) = F (deep d)) (hs : s.Holds content) {d d' : Nat} {c : Cursor}
    (hc : c.Sound s n) (hd : n ≤ d) (hd' : n ≤ d') : deep d c = deep d' c := by
  induction d generalizing n d' c with
  | zero =>
    have hn : n = 0 := by omega
    subst hn
    cases d' with
    | zero => rfl
    | succ d' =>
      rw [hzero, hsucc]
      exact hF 0 c _ _ hc fun i hi => absurd hi (Nat.not_lt_zero i)
  | succ d ih =>
    cases d' with
    | zero =>
      have hn : n = 0 := by omega
      subst hn
      rw [hzero, hsucc]
      exact hF 0 c _ _ hc fun i hi => absurd hi (Nat.not_lt_zero i)
    | succ d' =>
      rw [hsucc, hsucc]
      refine hF n c _ _ hc fun i hi b hb src hsrc => ?_
      exact ih (hs.source_sound hb hsrc) (by omega) (by omega)

/-- Two depths that reach all buffers that are read give the same number. -/
theorem stepsLeftAt_eq (hs : s.Holds content) {d d' : Nat} {c : Cursor} (hc : c.Sound s n)
    (hd : n ≤ d) (hd' : n ≤ d') : stepsLeftAt s d c = stepsLeftAt s d' c :=
  eq_of_depths (F := (stepsLeftWith · s)) (fun _ _ _ _ hc h => stepsLeftWith_congr hc h) rfl
    (fun _ => rfl) hs hc hd hd'

/-- The steps left, with those of the sources of buffers counted in the same way. -/
theorem stepsLeft_eq (hs : s.Holds content) {c : Cursor} (hc : c.Sound s n) :
    c.stepsLeft s = c.stepsLeftWith (fun src => src.stepsLeft s) s := by
  have hc := hc.below_size
  unfold stepsLeft
  cases hsize : s.buffers.size with
  | zero =>
    rw [hsize] at hc
    exact stepsLeftWith_congr hc fun i hi => absurd hi (Nat.not_lt_zero i)
  | succ k =>
    rw [hsize] at hc
    apply stepsLeftWith_congr hc
    intro i hi b hb src hsrc
    exact stepsLeftAt_eq hs (hs.source_sound hb hsrc) (by omega) (by omega)

/-! ### By structure -/

theorem stepsLeft_append (onRight : Bool) (hs : s.Holds content) {l r : Cursor}
    (hl : l.Sound s n) (hr : r.Sound s n) :
    (append l r onRight).stepsLeft s =
      (if onRight then 0 else l.stepsLeft s) + r.stepsLeft s := by
  rw [stepsLeft_eq hs (c := append l r onRight) ⟨hl, hr⟩, stepsLeft_eq hs hl, stepsLeft_eq hs hr]
  rfl

theorem stepsLeft_map (hs : s.Holds content) {f : Item → Entry} {input : Cursor}
    (h : input.Sound s n) : (map f input).stepsLeft s = input.stepsLeft s := by
  rw [stepsLeft_eq hs (c := map f input) h, stepsLeft_eq hs h]
  rfl

theorem stepsLeft_expand (nodes : NodeValues) (pending : List Atomic) (hs : s.Holds content)
    {input : Cursor} (h : input.Sound s n) :
    (expand nodes input pending).stepsLeft s =
      pending.length + (nodes.width + 1) * input.stepsLeft s := by
  rw [stepsLeft_eq hs (c := expand nodes input pending) h, stepsLeft_eq hs h]
  rfl

theorem stepsLeft_select (op : SetOp) (phase : SelectPhase) (hs : s.Holds content)
    {l r : Cursor} (hl : l.Sound s n) (hr : r.Sound s n) :
    (select op l r phase).stepsLeft s =
      match phase with
      | .gathering _ => r.stepsLeft s + l.stepsLeft s + 1
      | .choosing .. | .draining => l.stepsLeft s
      | .closed => 0 := by
  rw [stepsLeft_eq hs (c := select op l r phase) ⟨hl, hr⟩, stepsLeft_eq hs hl, stepsLeft_eq hs hr]
  rfl

end Cursor

/-- The steps that a reader still has behind the items of a buffer. -/
def Buffer.ahead (s : Store) (b : Buffer) : Nat :=
  ((b.source.map fun src => src.stepsLeft s).getD 0) + (if b.error.isSome then 1 else 0)

@[simp] theorem Buffer.ahead_live (items : Array Item) (c : Cursor) (s : Store) :
    Buffer.ahead s ⟨items, some c, none⟩ = c.stepsLeft s := rfl

@[simp] theorem Buffer.ahead_failed (items : Array Item) (e : Error) (s : Store) :
    Buffer.ahead s ⟨items, none, some e⟩ = 1 := rfl

@[simp] theorem Buffer.ahead_ended (items : Array Item) (s : Store) :
    Buffer.ahead s ⟨items, none, none⟩ = 0 := rfl

theorem Cursor.stepsLeft_buffered (hs : s.Holds content) {i pos : Nat} {b : Buffer}
    (hb : s.buffers[i]? = some b) (hpos : pos ≤ b.items.size ∨ b.source = none) :
    (buffered i pos).stepsLeft s =
      if b.items.size < pos then 0 else (b.items.size - pos) + b.ahead s := by
  rw [stepsLeft_eq hs (c := buffered i pos) (n := i + 1) ⟨Nat.lt_succ_self i, b, hb, hpos⟩]
  simp only [stepsLeftWith, hb, Buffer.ahead, Nat.add_assoc]

/-! ### Later stores -/

namespace Cursor

/-- A reader of a buffer that did not change has no more steps left, if that holds of the
    cursors below. -/
theorem stepsLeft_reader_le (hs : s.Holds content) (hs' : s'.Holds content') {i pos : Nat}
    {b : Buffer} (hb : s.buffers[i]? = some b) (hb' : s'.buffers[i]? = some b)
    (hpos : pos ≤ b.items.size ∨ b.source = none)
    (hbelow : ∀ c : Cursor, c.Sound s i → c.stepsLeft s' ≤ c.stepsLeft s) :
    (buffered i pos).stepsLeft s' ≤ (buffered i pos).stepsLeft s := by
  rw [stepsLeft_buffered hs hb hpos, stepsLeft_buffered hs' hb' hpos]
  have hahead : b.ahead s' ≤ b.ahead s := by
    unfold Buffer.ahead
    cases hsrc : b.source with
    | none => simp
    | some src =>
      have := hbelow src (hs.source_sound hb hsrc)
      simp only [Option.map_some, Option.getD_some]
      omega
  split <;> omega

/-- If no reader of a buffer below `m` has more steps left, then no cursor below `m` has. -/
theorem stepsLeft_le_of_readers (hs : s.Holds content) (hs' : s'.Holds content')
    (hgrows : s.Grows s') {m : Nat}
    (h : ∀ i < m, ∀ pos, (buffered i pos).Sound s m →
      (∀ c : Cursor, c.Sound s i → c.stepsLeft s' ≤ c.stepsLeft s) →
      (buffered i pos).stepsLeft s' ≤ (buffered i pos).stepsLeft s)
    {c : Cursor} (hnm : n ≤ m) (hc : c.Sound s n) : c.stepsLeft s' ≤ c.stepsLeft s := by
  -- A source lies below its buffer, so the bound `n` sinks where the induction on the cursor
  -- comes to a buffer.
  induction n using Nat.strongRecOn generalizing c with
  | ind n ih =>
    induction c with
    | listed | producer | range =>
      rw [stepsLeft_eq hs hc, stepsLeft_eq hs' (hc.later hgrows)]
      exact Nat.le_refl _
    | buffered i pos =>
      have hi : i < n := hc.1
      exact h i (by omega) pos (hc.mono hnm) fun c hc => ih i hi (by omega) hc
    | append l r onRight ihl ihr =>
      have hl := ihl hc.1
      have hr := ihr hc.2
      rw [stepsLeft_append onRight hs hc.1 hc.2,
        stepsLeft_append onRight hs' (hc.1.later hgrows) (hc.2.later hgrows)]
      split <;> omega
    | map f input ihi =>
      have hinput : input.Sound s n := hc
      rw [stepsLeft_map hs hinput, stepsLeft_map hs' (hinput.later hgrows)]
      exact ihi hinput
    | expand nodes input pending ihi =>
      have hinput : input.Sound s n := hc
      rw [stepsLeft_expand nodes pending hs hinput,
        stepsLeft_expand nodes pending hs' (hinput.later hgrows)]
      exact Nat.add_le_add_left (Nat.mul_le_mul_left _ (ihi hinput)) _
    | select op l r phase ihl ihr =>
      have hl := ihl hc.1
      have hr := ihr hc.2
      rw [stepsLeft_select op phase hs hc.1 hc.2,
        stepsLeft_select op phase hs' (hc.1.later hgrows) (hc.2.later hgrows)]
      split <;> omega

end Cursor

/-- No cursor has more steps left in the later store. -/
def Store.Settles (s s' : Store) : Prop :=
  ∀ (n : Nat) (c : Cursor), c.Sound s n → c.stepsLeft s' ≤ c.stepsLeft s

theorem Store.Settles.trans {s'' : Store} (h : s.Settles s') (hgrows : s.Grows s')
    (h' : s'.Settles s'') : s.Settles s'' :=
  fun n c hc => Nat.le_trans (h' n c (hc.later hgrows)) (h n c hc)

end XPathData
