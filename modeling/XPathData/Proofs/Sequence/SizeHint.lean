import XPathData.Proofs.Sequence.Counting

/-! # Size hints

  A size hint starts from the cursor at the end of a chain of functions and buffers, where it is
  exact or what a producer says of itself, and each buffer on the way adds the items that it
  holds ahead of its reader. This does not count what a buffer does with errors. As long as its
  source is there, the entries of the source behind the first error are counted, although the
  buffer will never give them; and once the reading has failed, the failure is not counted,
  although every reader still meets it. The hint is off by just these two numbers.

  * `Cursor.entriesLeft` — the entries that a cursor will still give
  * `Cursor.along` — what a number adds up to on the way of a size hint
  * `Cursor.cutOff`, `Cursor.unmet` — what a buffer counts too much, and what it leaves out
  * `Cursor.Accounts` — lower and upper bound, with what they are off by
  * `Pool.sizeHint_accounts` — the bounds of every cursor at every moment
  * `Pool.sizeHint_misses` — a hint that is too great and one that is too small
-/

namespace XPathData

variable {content : Nat → List Entry} {s s' : Store} {n : Nat} {entries : List Entry}

/-- The number of entries behind the first error. -/
def behindError (entries : List Entry) : Nat := entries.length - (upToError entries).length

theorem length_upToError_add (entries : List Entry) :
    (upToError entries).length + behindError entries = entries.length := by
  apply Nat.add_sub_cancel'
  rw [length_upToError]
  exact length_leadingItems_le entries

namespace Cursor

/-! ### Reading all entries -/

/-- The entries that a cursor has left, found by reading all of them. -/
def entriesLeft (c : Cursor) (s : Store) : List Entry :=
  (c.read (fun l e => .more (e :: l)) List.reverse [] s).1

theorem Left.entriesLeft {c : Cursor} (h : c.Left content s entries) :
    c.entriesLeft s = entries := by
  have hread (l : List Entry) (limit : Nat) (hroom : c.stepsLeft s < limit) :
      (c.readWithin (fun l e => .more (e :: l)) List.reverse limit l s).1 =
        l.reverse ++ entries := by
    -- Each entry that is read leaves fewer steps, so the limit lasts to the end of the entries.
    induction limit generalizing c s l entries with
    | zero => omega
    | succ limit ih =>
      match entries with
      | [] =>
        obtain ⟨c', s', hnext, -⟩ := h.next_nil
        simp only [readWithin, hnext, List.append_nil]
      | e :: entries =>
        obtain ⟨c', s', hnext, hleft, -, hfewer⟩ := h.next_cons
        simp only [readWithin, hnext]
        rw [ih hleft (e :: l) (by omega), List.reverse_cons, List.append_assoc,
          List.singleton_append]
  exact hread [] _ (Nat.lt_succ_self _)

theorem entriesLeft_eq {c : Cursor} (hs : s.Holds content) (hc : c.Sound s n) :
    c.entriesLeft s = c.remaining content :=
  Left.entriesLeft ⟨hs, hc.below_size, rfl⟩

/-! ### The way of a size hint -/

/-- What `f` adds up to along the way of a size hint, the sources of buffers given. -/
def alongWith (f : Cursor → Nat) (inner : Cursor → Nat) (s : Store) : Cursor → Nat
  | map _ input => input.alongWith f inner s
  | buffered b pos =>
    f (buffered b pos) +
      match s.buffers[b]? with
      | some ⟨_, some c, _⟩ => inner c
      | _ => 0
  | c => f c

/-- What `f` adds up to with buffers nested up to a depth. -/
def alongAt (f : Cursor → Nat) (s : Store) : Nat → Cursor → Nat
  | 0 => alongWith f (fun _ => 0) s
  | depth + 1 => alongWith f (alongAt f s depth) s

/-- What `f` adds up to along the way of a size hint: over the buffers that it goes through, and
    for the cursor that it starts from. -/
def along (f : Cursor → Nat) (s : Store) (c : Cursor) : Nat := alongAt f s s.buffers.size c

/-- The entries that the source of a buffer has behind the error that will end the buffer. -/
def cutOff (s : Store) : Cursor → Nat
  | buffered b _ =>
    match s.buffers[b]? with
    | some ⟨_, some c, _⟩ => behindError (c.entriesLeft s)
    | _ => 0
  | _ => 0

/-- The failure of a buffer, as long as the reader has not met it. -/
def unmet (s : Store) : Cursor → Nat
  | buffered b pos =>
    match s.buffers[b]? with
    | some ⟨items, none, some _⟩ => if pos ≤ items.size then 1 else 0
    | _ => 0
  | _ => 0

/-- How far the lower bound of a cursor that is no buffer stays behind what it has left. -/
def shortfall (own : Cursor → Store → Nat × Option Nat) (s : Store) : Cursor → Nat
  | buffered .. => 0
  | c => (c.entriesLeft s).length - (c.sizeHintBy own s).1

/-- How far the upper bound of a cursor that is no buffer goes beyond what it has left. -/
def excess (own : Cursor → Store → Nat × Option Nat) (s : Store) : Cursor → Nat
  | buffered .. => 0
  | c => ((c.sizeHintBy own s).2.getD 0) - (c.entriesLeft s).length

/-! ### Depth -/

theorem sizeHintWith_looksAtSources (own : Cursor → Store → Nat × Option Nat) (s : Store) :
    LooksAtSources s (sizeHintWith own · s) := by
  intro n c inner inner' hc h
  induction c with
  | listed | range | producer | append | expand | select => rfl
  | map f input ih => exact ih hc
  | buffered b pos =>
    obtain ⟨hb, buf, hbuf, -⟩ := hc
    cases hsource : buf.source with
    | none => simp only [sizeHintWith, hbuf, hsource]
    | some c => simp only [sizeHintWith, hbuf, hsource, h b hb buf hbuf c hsource]

theorem alongWith_looksAtSources (f : Cursor → Nat) (s : Store) :
    LooksAtSources s (alongWith f · s) := by
  intro n c inner inner' hc h
  induction c with
  | listed | range | producer | append | expand | select => rfl
  | map f input ih => exact ih hc
  | buffered b pos =>
    obtain ⟨hb, ⟨items, source, error⟩, hbuf, -⟩ := hc
    cases source with
    | none => simp only [alongWith, hbuf]
    | some c => simp only [alongWith, hbuf, h b hb _ hbuf c rfl]

variable {own : Cursor → Store → Nat × Option Nat} {f : Cursor → Nat} {c : Cursor}

/-- The size hint, with those of the sources of buffers found in the same way. -/
theorem sizeHintBy_eq (hs : s.Holds content) (hc : c.Sound s n) :
    c.sizeHintBy own s = c.sizeHintWith own (fun src => src.sizeHintBy own s) s :=
  eq_of_depths (F := (sizeHintWith own · s)) (sizeHintWith_looksAtSources own s) rfl
    (fun _ => rfl) hs hc.below_size (Nat.le_refl _) (Nat.le_succ _)

theorem along_eq (hs : s.Holds content) (hc : c.Sound s n) :
    c.along f s = c.alongWith f (fun src => src.along f s) s :=
  eq_of_depths (F := (alongWith f · s)) (alongWith_looksAtSources f s) rfl
    (fun _ => rfl) hs hc.below_size (Nat.le_refl _) (Nat.le_succ _)

/-! ### One cursor on the way -/

theorem sizeHintBy_map (g : Item → Entry) (input : Cursor) :
    (map g input).sizeHintBy own s = input.sizeHintBy own s := by
  unfold sizeHintBy
  cases s.buffers.size <;> rfl

theorem along_map (g : Item → Entry) (input : Cursor) :
    (map g input).along f s = input.along f s := by
  unfold along
  cases s.buffers.size <;> rfl

/-- A function gives one entry for each. -/
theorem length_entriesLeft_map {input : Cursor} (hs : s.Holds content) (hc : input.Sound s n)
    (g : Item → Entry) :
    ((map g input).entriesLeft s).length = (input.entriesLeft s).length := by
  have hmap : (map g input).entriesLeft s = (map g input).remaining content := entriesLeft_eq hs hc
  rw [hmap, entriesLeft_eq hs hc, remaining, List.length_map]

/-- The cursor is one that a size hint starts from. -/
def IsStart : Cursor → Prop
  | map .. | buffered .. => False
  | _ => True

theorem along_of_isStart (h : c.IsStart) : c.along f s = f c := by
  unfold along
  cases c with
  | map | buffered => exact h.elim
  | listed | range | producer | append | expand | select => cases s.buffers.size <;> rfl

/-- Only a buffer cuts entries off or holds a failure back, and only where the hint starts is
    there something that it falls short by or exceeds. -/
theorem offBy_of_isStart (own : Cursor → Store → Nat × Option Nat) (s : Store) (h : c.IsStart) :
    cutOff s c = 0 ∧ unmet s c = 0 ∧
      shortfall own s c = (c.entriesLeft s).length - (c.sizeHintBy own s).1 ∧
      excess own s c = ((c.sizeHintBy own s).2.getD 0) - (c.entriesLeft s).length := by
  cases c with
  | map | buffered => exact h.elim
  | listed | range | producer | append | expand | select => exact ⟨rfl, rfl, rfl, rfl⟩

section buffered

variable {b pos : Nat} {items : Array Item} {source : Cursor} {error : Option Error}

@[simp] theorem shortfall_buffered : shortfall own s (buffered b pos) = 0 := rfl

@[simp] theorem excess_buffered : excess own s (buffered b pos) = 0 := rfl

theorem cutOff_live (hb : s.buffers[b]? = some ⟨items, some source, error⟩) :
    cutOff s (buffered b pos) = behindError (source.entriesLeft s) := by
  simp only [cutOff, hb]

theorem unmet_live (hb : s.buffers[b]? = some ⟨items, some source, error⟩) :
    unmet s (buffered b pos) = 0 := by
  simp only [unmet, hb]

theorem cutOff_ended (hb : s.buffers[b]? = some ⟨items, none, error⟩) :
    cutOff s (buffered b pos) = 0 := by
  simp only [cutOff, hb]

/-- A buffer with its source adds the items that it holds ahead of the reader. -/
theorem sizeHintBy_live (hs : s.Holds content) (hc : (buffered b pos).Sound s n)
    (hb : s.buffers[b]? = some ⟨items, some source, error⟩) :
    (buffered b pos).sizeHintBy own s =
      (addCounts (items.size - pos) (source.sizeHintBy own s).1,
        (source.sizeHintBy own s).2.map (addCounts (items.size - pos))) := by
  rw [sizeHintBy_eq hs hc]
  simp only [sizeHintWith, hb]

theorem sizeHintBy_ended (hs : s.Holds content) (hc : (buffered b pos).Sound s n)
    (hb : s.buffers[b]? = some ⟨items, none, error⟩) :
    (buffered b pos).sizeHintBy own s = (items.size - pos, some (items.size - pos)) := by
  rw [sizeHintBy_eq hs hc]
  simp only [sizeHintWith, hb]

theorem along_live (hs : s.Holds content) (hc : (buffered b pos).Sound s n)
    (hb : s.buffers[b]? = some ⟨items, some source, error⟩) :
    (buffered b pos).along f s = f (buffered b pos) + source.along f s := by
  rw [along_eq hs hc]
  simp only [alongWith, hb]

theorem along_ended (hs : s.Holds content) (hc : (buffered b pos).Sound s n)
    (hb : s.buffers[b]? = some ⟨items, none, error⟩) :
    (buffered b pos).along f s = f (buffered b pos) := by
  rw [along_eq hs hc]
  simp only [alongWith, hb, Nat.add_zero]

/-- A buffer with its source has left what it holds ahead of the reader, and what its source has
    left up to the first error. -/
theorem entriesLeft_live (hs : s.Holds content) (hc : (buffered b pos).Sound s n)
    (hb : s.buffers[b]? = some ⟨items, some source, error⟩) :
    ((buffered b pos).entriesLeft s).length =
      items.size - pos + (upToError (source.entriesLeft s)).length := by
  obtain ⟨-, hsource, hcontent⟩ := (hs b _ hb).live rfl
  have hpos : pos ≤ items.size := by
    obtain ⟨-, buf, hbuf, hpos⟩ := hc
    rw [hb] at hbuf
    cases hbuf
    exact hpos.resolve_right (by simp)
  rw [entriesLeft_eq hs hc, entriesLeft_eq hs hsource, remaining, hcontent, List.length_drop,
    List.length_append, List.length_map, Array.length_toList]
  dsimp only
  omega

/-- Afterwards it has left the items that it holds, and the failure if it was not met. -/
theorem entriesLeft_ended (hs : s.Holds content) (hc : (buffered b pos).Sound s n)
    (hb : s.buffers[b]? = some ⟨items, none, error⟩) :
    ((buffered b pos).entriesLeft s).length = items.size - pos + unmet s (buffered b pos) := by
  have hcontent := (hs b _ hb).ended rfl
  rw [entriesLeft_eq hs hc, remaining, hcontent, List.length_drop, List.length_append,
    List.length_map, Array.length_toList]
  cases error with
  | none => simp [unmet, hb]
  | some e =>
    simp only [unmet, hb, Option.toList_some, List.map_cons, List.map_nil, List.length_singleton]
    split
    · omega
    · omega

end buffered

/-! ### The account of a size hint -/

/-- A hint is right about a number of entries. -/
def Brackets (hint : Nat × Option Nat) (left : Nat) : Prop :=
  hint.1 ≤ left ∧ ∀ m, hint.2 = some m → left ≤ m

/-- What running producers say of themselves is right about the entries that they have left. -/
def TruthfulHints (own : Cursor → Store → Nat × Option Nat) (s : Store) : Prop :=
  ∀ c : Cursor, Brackets (own c s) (c.entriesLeft s).length

/-- Both bounds of a size hint, with all that they are off by. -/
structure Accounts (own : Cursor → Store → Nat × Option Nat) (s : Store) (c : Cursor) : Prop where
  /-- The lower bound counts what buffers cut off, and leaves out the failures that are not met
      yet and what the hint at the start falls short by. -/
  lower : (c.sizeHintBy own s).1 + c.along (unmet s) s + c.along (shortfall own s) s =
    (c.entriesLeft s).length + c.along (cutOff s) s
  /-- The upper bound counts what buffers cut off and the excess of the hint at the start, and
      leaves out the failures that are not met yet. -/
  upper : ∀ m, (c.sizeHintBy own s).2 = some m → m + c.along (unmet s) s =
    (c.entriesLeft s).length + c.along (cutOff s) s + c.along (excess own s) s

/-- The hint at the start is right, if what producers say is. -/
theorem brackets_of_isStart (hs : s.Holds content) (hc : c.Sound s n) (hown : TruthfulHints own s)
    (hstart : c.IsStart) (hlt : (c.entriesLeft s).length < countLimit) :
    Brackets (c.sizeHintBy own s) (c.entriesLeft s).length := by
  rw [sizeHintBy_eq hs hc]
  cases c with
  | map | buffered => exact hstart.elim
  | listed items rest =>
    rw [entriesLeft_eq hs hc, remaining, List.length_map]
    exact ⟨Nat.le_refl _, fun m hm => Nat.le_of_eq (Option.some.inj hm)⟩
  | range low high next =>
    have hlength : ((next.map fun n => rangeLength n high).getD 0) =
        ((range low high next).entriesLeft s).length := by
      rw [entriesLeft_eq hs hc] at hlt ⊢
      cases next with
      | none => rfl
      | some i =>
        simp only [remaining, Option.map_some, Option.getD_some, List.length_map,
          Signed64.length_upTo] at hlt ⊢
        -- A number that takes 64 bits is not cut down.
        exact Nat.min_eq_left (Nat.le_sub_one_of_lt hlt)
    simp only [sizeHintWith, hlength]
    exact ⟨Nat.le_refl _, fun m hm => Nat.le_of_eq (Option.some.inj hm)⟩
  | producer name entries rest =>
    cases rest with
    | none => exact ⟨Nat.zero_le _, by rintro m ⟨⟩⟩
    | some rest => exact hown _
  | select op l r phase => exact hown _
  | append | expand => exact ⟨Nat.zero_le _, by rintro m ⟨⟩⟩

theorem Accounts.of_isStart (hs : s.Holds content) (hc : c.Sound s n)
    (hown : TruthfulHints own s) (hstart : c.IsStart)
    (hlt : (c.entriesLeft s).length < countLimit) : c.Accounts own s := by
  obtain ⟨hlower, hupper⟩ := brackets_of_isStart hs hc hown hstart hlt
  obtain ⟨hcutOff, hunmet, hshortfall, hexcess⟩ := offBy_of_isStart own s hstart
  constructor
  · rw [along_of_isStart hstart, along_of_isStart hstart, along_of_isStart hstart, hcutOff, hunmet,
      hshortfall]
    omega
  · intro m hm
    have hle := hupper m hm
    rw [along_of_isStart hstart, along_of_isStart hstart, along_of_isStart hstart, hcutOff, hunmet,
      hexcess, hm, Option.getD_some]
    omega

/-- The hint of a function is that of its input. -/
theorem Accounts.map {input : Cursor} (hs : s.Holds content) (hc : input.Sound s n)
    (h : input.Accounts own s) (g : Item → Entry) : (Cursor.map g input).Accounts own s := by
  have hleft := length_entriesLeft_map hs hc g
  constructor
  · rw [sizeHintBy_map, along_map, along_map, along_map, hleft]
    exact h.lower
  · rw [sizeHintBy_map, along_map, along_map, along_map, hleft]
    exact h.upper

/-- A buffer with its source adds the items that it holds ahead of the reader to both sides; what
    its source has behind the first error is not left, but is counted. -/
theorem Accounts.live {b pos : Nat} {items : Array Item} {source : Cursor} {error : Option Error}
    (hs : s.Holds content) (hc : (buffered b pos).Sound s n)
    (hb : s.buffers[b]? = some ⟨items, some source, error⟩)
    (hlt : ((buffered b pos).entriesLeft s).length + (buffered b pos).along (cutOff s) s +
      (buffered b pos).along (excess own s) s < countLimit)
    (h : source.Accounts own s) : (buffered b pos).Accounts own s := by
  have hleft := entriesLeft_live hs hc hb
  have hsplit := length_upToError_add (source.entriesLeft s)
  rw [along_live hs hc hb, along_live hs hc hb, cutOff_live hb, excess_buffered] at hlt
  constructor
  · have hlower := h.lower
    rw [sizeHintBy_live hs hc hb, along_live hs hc hb, along_live hs hc hb, along_live hs hc hb,
      cutOff_live hb, unmet_live hb, shortfall_buffered]
    -- The sum does not wrap around, since all that it counts fits into 64 bits.
    have hsum : addCounts (items.size - pos) (source.sizeHintBy own s).1 =
        items.size - pos + (source.sizeHintBy own s).1 := by
      apply Nat.mod_eq_of_lt
      omega
    dsimp only
    rw [hsum]
    omega
  · intro m hm
    rw [sizeHintBy_live hs hc hb, Option.map_eq_some_iff] at hm
    obtain ⟨k, hk, rfl⟩ := hm
    have hupper := h.upper k hk
    rw [along_live hs hc hb, along_live hs hc hb, along_live hs hc hb, cutOff_live hb,
      unmet_live hb, excess_buffered]
    have hsum : addCounts (items.size - pos) k = items.size - pos + k := by
      apply Nat.mod_eq_of_lt
      omega
    rw [hsum]
    omega

/-- A buffer without its source counts the items that it holds, but not the failure. -/
theorem Accounts.ended {b pos : Nat} {items : Array Item} {error : Option Error}
    (hs : s.Holds content) (hc : (buffered b pos).Sound s n)
    (hb : s.buffers[b]? = some ⟨items, none, error⟩) : (buffered b pos).Accounts own s := by
  have hleft := entriesLeft_ended hs hc hb
  constructor
  · rw [sizeHintBy_ended hs hc hb, along_ended hs hc hb, along_ended hs hc hb,
      along_ended hs hc hb, cutOff_ended hb, shortfall_buffered, hleft]
  · intro m hm
    rw [sizeHintBy_ended hs hc hb] at hm
    cases hm
    rw [along_ended hs hc hb, along_ended hs hc hb, along_ended hs hc hb, cutOff_ended hb,
      excess_buffered, hleft]
    rfl

/-- The account of every cursor. The induction is on the buffers below, and for one number of them
    on the functions that are mapped over a cursor. -/
theorem accounts (hs : s.Holds content) (hown : TruthfulHints own s) (hc : c.Sound s n)
    (hlt : (c.entriesLeft s).length + c.along (cutOff s) s + c.along (excess own s) s <
      countLimit) : c.Accounts own s := by
  induction n using Nat.strong_induction_on generalizing c with
  | _ n ih =>
    induction c with
    | listed | range | producer | append | expand | select =>
      exact .of_isStart hs hc hown trivial (by omega)
    | map g input ihInput =>
      have hinput : input.Sound s n := hc
      rw [length_entriesLeft_map hs hinput, along_map, along_map] at hlt
      exact Accounts.map hs hinput (ihInput hinput hlt) g
    | buffered b pos =>
      obtain ⟨⟨items, source, error⟩, hb⟩ : ∃ buf, s.buffers[b]? = some buf := by
        obtain ⟨-, buf, hbuf, -⟩ := hc
        exact ⟨buf, hbuf⟩
      cases source with
      | none => exact .ended hs hc hb
      | some source =>
        have hsource := (hs b _ hb).source_sound rfl
        have hleft := entriesLeft_live hs hc hb
        have hsplit := length_upToError_add (source.entriesLeft s)
        refine .live hs hc hb hlt (ih b hc.1 hsource ?_)
        -- What the source has behind its first error is cut off, and so counted here as well.
        rw [along_live hs hc hb, along_live hs hc hb, cutOff_live hb] at hlt
        omega

/-- Producers that have all their entries there are right about them. -/
theorem truthful_ownHint (hs : s.Holds content) : TruthfulHints ownHint s := by
  intro c
  unfold ownHint
  split
  · next name entries rest =>
    have hleft : (producer name entries (some rest)).entriesLeft s = rest :=
      Left.entriesLeft ⟨hs, trivial, rfl⟩
    rw [hleft]
    exact ⟨Nat.le_refl _, fun m hm => Nat.le_of_eq (Option.some.inj hm)⟩
  · exact ⟨Nat.zero_le _, by rintro m ⟨⟩⟩

/-- The bounds are right if what buffers cut off makes up for the failures that are not met. -/
theorem Accounts.brackets (h : c.Accounts own s)
    (heven : c.along (cutOff s) s = c.along (unmet s) s) :
    Brackets (c.sizeHintBy own s) (c.entriesLeft s).length := by
  constructor
  · have hlower := h.lower
    omega
  · intro m hm
    have hupper := h.upper m hm
    omega

end Cursor

/-! ### All handles -/

/-- The size hint of a handle, however it was made and whatever was asked of it and of others,
    over producers that are right about themselves. All that it is off by is what buffers on its
    way cut off, which it counts, the failures on its way that are not met yet, which it leaves
    out, and what the hint at the start is off by. So the hint is right if no buffer cuts anything
    off and no failure is left to be met. The entries that are counted on the way, with the excess
    of the upper bound, have to be fewer than a count can tell. -/
theorem Pool.sizeHint_accounts (own : Cursor → Store → Nat × Option Nat) (actions : List Action)
    (i : Nat) (h : Handle) (r : Replay) (hi : (Pool.run actions).handles[i]? = some h)
    (hr : (Replay.run actions)[i]? = some r)
    (hown : Cursor.TruthfulHints own (Pool.run actions).store)
    (hlt : (r.shape.entries.length - r.reads) +
      h.cursor.along (Cursor.cutOff (Pool.run actions).store) (Pool.run actions).store +
      h.cursor.along (Cursor.excess own (Pool.run actions).store) (Pool.run actions).store <
        countLimit) :
    let s := (Pool.run actions).store
    h.cursor.entriesLeft s = r.shape.entries.drop r.reads ∧
      h.cursor.Accounts own s ∧
      (h.cursor.along (Cursor.cutOff s) s = h.cursor.along (Cursor.unmet s) s →
        Cursor.Brackets (h.cursor.sizeHintBy own s) (r.shape.entries.length - r.reads)) := by
  intro s
  obtain ⟨content, hfollows⟩ := Pool.exists_follows actions
  have hread := hfollows.handle i h r hi hr
  have hleft : h.cursor.entriesLeft s = r.shape.entries.drop r.reads := by
    rw [Cursor.entriesLeft_eq hfollows.holds hread.sound, hread.left]
  have hlength : (h.cursor.entriesLeft s).length = r.shape.entries.length - r.reads := by
    rw [hleft, List.length_drop]
  rw [← hlength] at hlt ⊢
  have haccounts := Cursor.accounts hfollows.holds hown hread.sound hlt
  exact ⟨hleft, haccounts, haccounts.brackets⟩

/-- A buffer of a producer that fails behind its first item, read up to there: the account is that
    of one entry left and two cut off. -/
theorem Pool.sizeHint_accounts_behind_error :
    let e : Error := .ofCode .invalidArgument "x"
    let p := Pool.run [.produce "p" [.ok (.node 0), .error e, .ok (.node 1), .ok (.node 2)],
      .buffer 0, .next 1]
    (Cursor.buffered 0 1).entriesLeft p.store = [.error e] ∧
      (Cursor.buffered 0 1).Accounts Cursor.ownHint p.store := by
  intro e p
  obtain ⟨content, hfollows⟩ := Pool.exists_follows
    [.produce "p" [.ok (.node 0), .error e, .ok (.node 1), .ok (.node 2)], .buffer 0, .next 1]
  obtain ⟨hleft, haccounts, -⟩ := Pool.sizeHint_accounts Cursor.ownHint
    [.produce "p" [.ok (.node 0), .error e, .ok (.node 1), .ok (.node 2)], .buffer 0, .next 1]
    1 ⟨.buffered 0 1, [some (.ok (.node 0))]⟩
    ⟨.buffered (.produced [.ok (.node 0), .error e, .ok (.node 1), .ok (.node 2)]), 1⟩ rfl rfl
    (Cursor.truthful_ownHint hfollows.holds) (by decide +kernel)
  exact ⟨hleft, haccounts⟩

/-- The hint of a reader that has one entry left is three, if the producer of its buffer has two
    more behind the error. The hint of a fresh copy of a reader that met the failure of a buffer
    is zero, although the copy will meet it too. -/
theorem Pool.sizeHint_misses :
    let e : Error := .ofCode .invalidArgument "x"
    let live := Pool.run [.produce "p" [.ok (.node 0), .error e, .ok (.node 1), .ok (.node 2)],
      .buffer 0, .next 1]
    let failed := Pool.run [.produce "p" [.error e], .buffer 0, .next 1, .clone 1]
    ((live.cursor 1).sizeHint live.store = (3, some 3) ∧
      (live.cursor 1).entriesLeft live.store = [.error e]) ∧
    ((failed.cursor 2).sizeHint failed.store = (0, some 0) ∧
      (failed.cursor 2).entriesLeft failed.store = [.error e]) ∧
    ¬ Cursor.Brackets (3, some 3) [(.error e : Entry)].length ∧
    ¬ Cursor.Brackets (0, some 0) [(.error e : Entry)].length := by
  intro e live failed
  refine ⟨⟨by decide +kernel, by decide +kernel⟩, ⟨by decide +kernel, by decide +kernel⟩, ?_, ?_⟩
  · rintro ⟨hlower, -⟩
    exact absurd hlower (by decide)
  · rintro ⟨-, hupper⟩
    exact absurd (hupper 0 rfl) (by decide)

end XPathData
