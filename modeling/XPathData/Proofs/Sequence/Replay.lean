import XPathData.Proofs.Sequence.Stepping
import XPathData.Sequence.Coercion
import XPathData.Sequence.NodeSet

/-! # Handles replay their sequences

  Cursors are made from one another, are copied at any moment and are read in turns. What a
  handle answers depends only on the shape of its sequence and on how often it was read:
  handles over a store answer like a machine that has no store at all.

  * `Shape.entries` — the entries of a sequence, by structure
  * `Pool.run` — handles over a store, with the answers they gave
  * `Replay.run` — the same actions without a store
  * `Pool.run_answers` — both answer the same
-/

namespace XPathData

/-! ### Shapes -/

/-- A sequence as it is put together. -/
inductive Shape where
  /-- The given items: none, one or many. -/
  | items (l : List Item)
  | range (low high : Signed64)
  /-- What a producer gives in each of its runs. -/
  | produced (entries : List Entry)
  | concat (a b : Shape)
  | map (f : Item → Entry) (a : Shape)
  /-- Each item checked against a type. -/
  | treat (F : Forest) (type : ItemType) (a : Shape)
  | atomize (F : Forest) (a : Shape)
  /-- A set operation with its result in the order of the operands. -/
  | select (op : SetOp) (a b : Shape)
  | buffered (a : Shape)

/-- The atomic values that stand for an entry: those of an item, or the error that a node has
    instead of values. -/
def Entry.atomized (F : Forest) : Entry → List Entry
  | .ok x =>
    match x.atomize F with
    | .ok l => l.map fun a => .ok (.atomic a)
    | .error e => [.error e]
  | .error e => [.error e]

/-- The entries of a sequence. -/
def Shape.entries : Shape → List Entry
  | items l => l.map .ok
  | range low high => (Signed64.upTo low high).map fun n => .ok (.atomic (.int n))
  | produced entries => entries
  | concat a b => a.entries ++ b.entries
  | map f a => a.entries.map fun e => e.bind f
  | treat F type a => a.entries.map fun e => e.bind (Stream.checkItem F type .treatFailed)
  | atomize F a => a.entries.flatMap (Entry.atomized F)
  | select .union a b => SetOp.union.chosen [] [] (a.entries ++ b.entries)
  | select op a b =>
    match op.gathered [] b.entries with
    | .ok other => op.chosen other [] a.entries
    | .error e => [.error e]
  | buffered a => upToError a.entries

/-! ### Actions -/

/-- What can be done with handles, which are named by numbers. -/
inductive Action where
  | items (l : List Item)
  | range (low high : Signed64)
  | produce (name : String) (entries : List Entry)
  | concat (g h : Nat)
  | map (f : Item → Entry) (h : Nat)
  | treat (F : Forest) (type : ItemType) (h : Nat)
  | atomize (F : Forest) (h : Nat)
  | select (op : SetOp) (g h : Nat)
  | buffer (h : Nat)
  /-- Another handle of the same sequence, at its beginning. -/
  | clone (h : Nat)
  /-- Asks a handle for its next entry. -/
  | next (h : Nat)

/-! ### Handles over a store -/

/-- A cursor that was made, and what it has answered so far. -/
structure Handle where
  cursor : Cursor
  answers : List (Option Entry)

/-- All handles, by number, and the store that they share. -/
structure Pool where
  store : Store
  handles : List Handle

namespace Pool

/-- No handles yet. -/
def empty : Pool := ⟨.empty, []⟩

/-- The cursor of a handle; a number without a handle has the sequence without items. -/
def cursor (p : Pool) (i : Nat) : Cursor := (p.handles[i]?.map (·.cursor)).getD (.ofList [])

/-- Makes a handle. -/
def make (p : Pool) (c : Cursor) : Pool := { p with handles := p.handles ++ [⟨c, []⟩] }

/-- Asks a handle for its next entry. -/
def next (p : Pool) (i : Nat) : Pool :=
  match p.handles[i]? with
  | none => p
  | some h =>
    let (e, c, s) := h.cursor.next p.store
    ⟨s, p.handles.set i ⟨c, h.answers ++ [e]⟩⟩

/-- Makes a buffer over a fresh copy of a cursor, and a handle that reads it. -/
def makeBuffered (p : Pool) (c : Cursor) : Pool :=
  { p with store := (p.store.buffer c).1 }.make (p.store.buffer c).2

/-- Does an action. -/
def perform (p : Pool) : Action → Pool
  | .items l => p.make (.ofList l)
  | .range low high => p.make (.ofRange low high)
  | .produce name entries => p.make (.ofProducer name entries)
  | .concat i j => p.make ((p.cursor i).concat (p.cursor j))
  | .map f i => p.make (.map f (p.cursor i).restart)
  | .treat F type i => p.make (.map (Stream.checkItem F type .treatFailed) (p.cursor i).restart)
  | .atomize F i => p.make ((p.cursor i).atomize F)
  | .select op i j =>
    p.make (Stream.unordered op (.ofCursor (p.cursor i)) (.ofCursor (p.cursor j))).cursor
  | .buffer i => p.makeBuffered (p.cursor i)
  | .clone i => p.make (p.cursor i).restart
  | .next i => p.next i

/-- Does actions, one after the other. -/
def run (actions : List Action) : Pool := actions.foldl perform empty

end Pool

/-! ### The same without a store -/

/-- A handle as it should be: a sequence, and how often it was asked for an entry. -/
structure Replay where
  shape : Shape
  reads : Nat

namespace Replay

/-- What was answered: the entries in order, and none behind the last one. -/
def answers (r : Replay) : List (Option Entry) :=
  (List.range r.reads).map fun k => r.shape.entries[k]?

/-- The sequence of a handle; a number without a handle has the one without items. -/
def shapeOf (rs : List Replay) (i : Nat) : Shape := (rs[i]?.map (·.shape)).getD (.items [])

/-- Makes a handle, which was asked for nothing yet. -/
def make (rs : List Replay) (shape : Shape) : List Replay := rs ++ [⟨shape, 0⟩]

/-- Does an action. A reading counts only for the handle that is read. -/
def perform (rs : List Replay) : Action → List Replay
  | .items l => make rs (.items l)
  | .range low high => make rs (.range low high)
  | .produce _ entries => make rs (.produced entries)
  | .concat i j => make rs (.concat (shapeOf rs i) (shapeOf rs j))
  | .map f i => make rs (.map f (shapeOf rs i))
  | .treat F type i => make rs (.treat F type (shapeOf rs i))
  | .atomize F i => make rs (.atomize F (shapeOf rs i))
  | .select op i j => make rs (.select op (shapeOf rs i) (shapeOf rs j))
  | .buffer i => make rs (.buffered (shapeOf rs i))
  | .clone i => make rs (shapeOf rs i)
  | .next i => rs.modify i fun r => { r with reads := r.reads + 1 }

/-- Does actions, one after the other. -/
def run (actions : List Action) : List Replay := actions.foldl perform []

end Replay

/-! ### Handles and their replays -/

variable {content : Nat → List Entry} {s s' : Store} {n : Nat}

/-- A handle stands in its sequence where its replay stands. -/
structure Handle.Follows (content : Nat → List Entry) (s : Store) (h : Handle) (r : Replay) :
    Prop where
  sound : h.cursor.Sound s s.buffers.size
  /-- A fresh copy reads the whole sequence. -/
  whole : h.cursor.restart.remaining content = r.shape.entries
  left : h.cursor.remaining content = r.shape.entries.drop r.reads
  answered : h.answers = r.answers

/-- All handles of a pool stand where their replays stand. -/
structure Pool.Follows (content : Nat → List Entry) (p : Pool) (rs : List Replay) : Prop where
  holds : p.store.Holds content
  length_eq : p.handles.length = rs.length
  handle : ∀ (i : Nat) (h : Handle) (r : Replay), p.handles[i]? = some h → rs[i]? = some r →
    h.Follows content p.store r

/-- Reading another handle does not move this one. -/
theorem Handle.Follows.later {h : Handle} {r : Replay} (hr : h.Follows content s r)
    (hs : s.Follows content n s') : h.Follows content s' r where
  sound := hs.size ▸ hr.sound.later hs.grows
  whole := hr.whole
  left := hr.left
  answered := hr.answered

theorem Replay.answers_succ (r : Replay) :
    Replay.answers { r with reads := r.reads + 1 } = r.answers ++ [r.shape.entries[r.reads]?] := by
  simp only [Replay.answers, List.range_succ, List.map_append, List.map_cons, List.map_nil]

/-- A handle that is read answers with the entry at its place, and goes on by one place. -/
theorem Handle.Follows.next {h : Handle} {r : Replay} (hs : s.Holds content)
    (hr : h.Follows content s r) :
    Handle.Follows content (h.cursor.next s).2.2
      ⟨(h.cursor.next s).2.1, h.answers ++ [(h.cursor.next s).1]⟩
      { r with reads := r.reads + 1 } := by
  obtain ⟨-, hsound, hrestart, hhead, htail⟩ := Cursor.next_reads hs hr.sound
  refine ⟨hsound, ?_, ?_, ?_⟩
  · rw [hrestart, hr.whole]
  · rw [htail, hr.left, List.tail_drop]
  · rw [Replay.answers_succ, hr.answered, hhead, hr.left, List.head?_drop]

namespace Pool.Follows

variable {p : Pool} {rs : List Replay}

theorem empty (content : Nat → List Entry) : Pool.empty.Follows content [] where
  holds _ _ h := by simp [Pool.empty, Store.empty] at h
  length_eq := rfl
  handle _ _ _ h := by simp [Pool.empty] at h

/-- The cursor of a number reads the sequence of that number. -/
theorem cursor (h : p.Follows content rs) (i : Nat) :
    (p.cursor i).Sound p.store p.store.buffers.size ∧
      (p.cursor i).restart.remaining content = (Replay.shapeOf rs i).entries := by
  unfold Pool.cursor Replay.shapeOf
  by_cases hi : i < p.handles.length
  · have hrs : i < rs.length := h.length_eq ▸ hi
    rw [List.getElem?_eq_getElem hi, List.getElem?_eq_getElem hrs]
    obtain ⟨hsound, hwhole, -, -⟩ := h.handle i _ _ (List.getElem?_eq_getElem hi)
      (List.getElem?_eq_getElem hrs)
    exact ⟨hsound, hwhole⟩
  · have hrs : ¬ i < rs.length := h.length_eq ▸ hi
    rw [List.getElem?_eq_none (Nat.le_of_not_lt hi), List.getElem?_eq_none (Nat.le_of_not_lt hrs)]
    exact ⟨trivial, rfl⟩

/-- A fresh cursor that reads a sequence may become a handle of it. -/
theorem make (h : p.Follows content rs) {c : Cursor} {shape : Shape}
    (hsound : c.Sound p.store p.store.buffers.size) (hfresh : c.restart = c)
    (hentries : c.remaining content = shape.entries) :
    (p.make c).Follows content (Replay.make rs shape) := by
  refine ⟨h.holds, by simp [Pool.make, Replay.make, h.length_eq], fun i g r hg hr => ?_⟩
  simp only [Pool.make] at hg
  simp only [Replay.make] at hr
  rcases Nat.lt_trichotomy i p.handles.length with hi | hi | hi
  · rw [List.getElem?_append_left hi] at hg
    rw [List.getElem?_append_left (h.length_eq ▸ hi)] at hr
    exact h.handle i g r hg hr
  · rw [hi, List.getElem?_concat_length] at hg
    rw [hi, h.length_eq, List.getElem?_concat_length] at hr
    cases hg
    cases hr
    exact ⟨hsound, by rw [hfresh, hentries], by rw [hentries, List.drop_zero], rfl⟩
  · have hlt := (List.getElem?_eq_some_iff.1 hg).1
    simp only [List.length_append, List.length_singleton] at hlt
    omega

theorem next (h : p.Follows content rs) (i : Nat) :
    (p.next i).Follows content (rs.modify i fun r => { r with reads := r.reads + 1 }) := by
  by_cases hi : i < p.handles.length
  · have hrs : i < rs.length := h.length_eq ▸ hi
    have hread := h.handle i _ _ (List.getElem?_eq_getElem hi) (List.getElem?_eq_getElem hrs)
    have hfollows := (Cursor.next_reads h.holds hread.sound).follows
    simp only [Pool.next, List.getElem?_eq_getElem hi]
    refine ⟨hfollows.holds, by simp [h.length_eq], fun j g r hg hr => ?_⟩
    simp only at hg ⊢
    rw [List.getElem?_modify] at hr
    by_cases hj : i = j
    · subst hj
      rw [List.getElem?_set_self hi] at hg
      simp only [List.getElem?_eq_getElem hrs, Option.map_eq_map, Option.map_some, ↓reduceIte]
        at hr
      cases hg
      cases hr
      exact hread.next h.holds
    · rw [List.getElem?_set_ne hj] at hg
      simp only [hj, ↓reduceIte, id_map'] at hr
      exact (h.handle j g r hg hr).later hfollows
  · have hrs : ¬ i < rs.length := h.length_eq ▸ hi
    rw [List.modify_eq_self (Nat.le_of_not_lt hrs)]
    simp only [Pool.next, List.getElem?_eq_none (Nat.le_of_not_lt hi)]
    exact h

end Pool.Follows

/-! ### Buffers made -/

variable {content' : Nat → List Entry}

/-- A later store may have more buffers; those there were have read as much or more and hold what
    they held. -/
structure Store.Extends (content content' : Nat → List Entry) (s s' : Store) : Prop where
  grows : s.Grows s'
  size_le : s.buffers.size ≤ s'.buffers.size
  agree : ∀ i < s.buffers.size, content i = content' i

theorem Store.Extends.refl (content : Nat → List Entry) (s : Store) :
    s.Extends content content s :=
  ⟨.of_buffers_eq rfl, Nat.le_refl _, fun _ _ => rfl⟩

theorem Store.Follows.extends (h : s.Follows content n s') : s.Extends content content s' :=
  ⟨h.grows, Nat.le_of_eq h.size.symm, fun _ _ => rfl⟩

theorem Store.buffer_grows (s : Store) (c : Cursor) : s.Grows (s.buffer c).1 := by
  intro i b hb
  have hi : i < s.buffers.size := (Array.getElem?_eq_some_iff.1 hb).1
  refine ⟨b, ?_, .refl b⟩
  rw [Store.buffer, Array.getElem?_push_lt hi, ← hb, Array.getElem?_eq_getElem hi]

theorem Store.size_buffer (s : Store) (c : Cursor) :
    (s.buffer c).1.buffers.size = s.buffers.size + 1 := Array.size_push _

theorem Store.extends_buffer (s : Store) (c : Cursor) (l : List Entry) :
    s.Extends content (Function.update content s.buffers.size l) (s.buffer c).1 where
  grows := s.buffer_grows c
  size_le := by
    rw [s.size_buffer c]
    exact Nat.le_succ _
  agree := fun i hi => (Function.update_of_ne (Nat.ne_of_lt hi) _ _).symm

/-- The contents of buffers that are not read do not matter. -/
theorem Buffer.Holds.congr {i : Nat} {b : Buffer} (h : b.Holds content s i)
    (hcontent : ∀ j ≤ i, content j = content' j) : b.Holds content' s i := by
  unfold Buffer.Holds at h ⊢
  split
  · next c hc =>
    simp only [hc] at h
    obtain ⟨herror, hsound, hholds⟩ := h
    refine ⟨herror, hsound, ?_⟩
    rw [← hcontent i (Nat.le_refl i), hholds,
      Cursor.remaining_congr hsound fun j hj => hcontent j (Nat.le_of_lt hj)]
  · next hc =>
    simp only [hc] at h
    rw [← hcontent i (Nat.le_refl i), h]

/-- A new buffer holds what its source reads up to the first error; the others hold the
    contents that they had. -/
theorem Store.Holds.buffer {c : Cursor} (hs : s.Holds content) (hc : c.Sound s s.buffers.size)
    (hbelow : ∀ i < s.buffers.size, content i = content' i)
    (hnew : content' s.buffers.size = upToError (c.restart.remaining content)) :
    (s.buffer c).1.Holds content' := by
  intro i b hb
  rw [Store.buffer, Array.getElem?_push] at hb
  split at hb
  · next hi =>
    subst hi
    cases hb
    refine ⟨rfl, hc.restart.later (s.buffer_grows c), ?_⟩
    rw [hnew, Cursor.remaining_congr hc.restart hbelow]
    rfl
  · have hi : i < s.buffers.size := (Array.getElem?_eq_some_iff.1 hb).1
    have hold : b.Holds content' s i :=
      (hs i b hb).congr fun j hj => hbelow j (Nat.lt_of_le_of_lt hj hi)
    exact hold.later (s.buffer_grows c)

theorem Handle.Follows.buffer {h : Handle} {r : Replay} (hr : h.Follows content s r) (c : Cursor)
    (hbelow : ∀ i < s.buffers.size, content i = content' i) :
    h.Follows content' (s.buffer c).1 r where
  sound := (hr.sound.later (s.buffer_grows c)).mono (s.size_buffer c ▸ Nat.le_succ _)
  whole := by rw [← Cursor.remaining_congr hr.sound.restart hbelow, hr.whole]
  left := by rw [← Cursor.remaining_congr hr.sound hbelow, hr.left]
  answered := hr.answered

namespace Pool.Follows

variable {p : Pool} {rs : List Replay}

/-- The contents of the buffers behind the making of another one. -/
theorem makeBuffered (h : p.Follows content rs) {c : Cursor} {shape : Shape}
    (hsound : c.Sound p.store p.store.buffers.size)
    (hentries : c.restart.remaining content = shape.entries) :
    (p.makeBuffered c).Follows (Function.update content p.store.buffers.size
      (upToError shape.entries)) (Replay.make rs (.buffered shape)) := by
  have hbelow : ∀ i < p.store.buffers.size, content i =
      Function.update content p.store.buffers.size (upToError shape.entries) i :=
    fun i hi => (Function.update_of_ne (Nat.ne_of_lt hi) _ _).symm
  have hnew : Function.update content p.store.buffers.size (upToError shape.entries)
      p.store.buffers.size = upToError shape.entries := Function.update_self _ _ _
  have hholds := h.holds.buffer hsound hbelow (by rw [hnew, hentries])
  have hstore : Pool.Follows (Function.update content p.store.buffers.size
      (upToError shape.entries)) { p with store := (p.store.buffer c).1 } rs :=
    ⟨hholds, h.length_eq, fun i g r hg hr => (h.handle i g r hg hr).buffer c hbelow⟩
  refine hstore.make ⟨?_, ⟨#[], some c.restart, none⟩, ?_, .inl (Nat.le_refl _)⟩ rfl ?_
  · rw [p.store.size_buffer c]
    exact Nat.lt_succ_self _
  · exact Array.getElem?_push_size
  · exact hnew

/-! ### All actions -/

/-- Atomic values stand for the nodes among the entries. -/
theorem expansion_nodeValues (F : Forest) : F.nodeValues.expansion = Entry.atomized F := by
  funext e
  match e with
  | .ok (.node n) => rfl
  | .ok (.atomic a) => rfl
  | .error e => rfl

theorem remaining_unordered (op : SetOp) (content : Nat → List Entry) (a b : Cursor) :
    (Stream.unordered op (.ofCursor a) (.ofCursor b)).cursor.remaining content =
      match op with
      | .union =>
        SetOp.union.chosen [] [] (a.restart.remaining content ++ b.restart.remaining content)
      | op =>
        match op.gathered [] (b.restart.remaining content) with
        | .ok other => op.chosen other [] (a.restart.remaining content)
        | .error e => [.error e] := by
  cases op <;> rfl

theorem extends_next (h : p.Follows content rs) (i : Nat) :
    p.store.Extends content content (p.next i).store := by
  unfold Pool.next
  cases hi : p.handles[i]? with
  | none => exact .refl content p.store
  | some g =>
    have hsound := (h.cursor i).1
    simp only [Pool.cursor, hi, Option.map_some, Option.getD_some] at hsound
    exact (Cursor.next_reads h.holds hsound).follows.extends

/-- An action keeps all handles where their replays stand, and loses nothing that was read. -/
theorem perform (h : p.Follows content rs) (a : Action) :
    ∃ content', (p.perform a).Follows content' (Replay.perform rs a) ∧
      p.store.Extends content content' (p.perform a).store := by
  cases a with
  | items l => exact ⟨content, h.make trivial rfl rfl, .refl content p.store⟩
  | range low high =>
    refine ⟨content, h.make (Cursor.Sound.ofRange low high) rfl ?_, .refl content p.store⟩
    simp only [Cursor.ofRange, Cursor.remaining, Shape.entries]
    split
    · rfl
    · next hlt =>
      rw [Signed64.upTo_eq_nil (by omega)]
      rfl
  | produce name entries => exact ⟨content, h.make trivial rfl rfl, .refl content p.store⟩
  | concat i j =>
    obtain ⟨hsi, hi⟩ := h.cursor i
    obtain ⟨hsj, hj⟩ := h.cursor j
    refine ⟨content, h.make ⟨hsi.restart, hsj.restart⟩ ?_ ?_, .refl content p.store⟩
    · simp only [Cursor.concat, Cursor.restart, Cursor.restart_restart]
    · simp only [Cursor.concat, Cursor.remaining, Shape.entries, hi, hj]
      rfl
  | map f i =>
    obtain ⟨hsi, hi⟩ := h.cursor i
    refine ⟨content, h.make hsi.restart ?_ ?_, .refl content p.store⟩
    · simp only [Cursor.restart, Cursor.restart_restart]
    · simp only [Cursor.remaining, Shape.entries, hi]
  | treat F type i =>
    obtain ⟨hsi, hi⟩ := h.cursor i
    refine ⟨content, h.make hsi.restart ?_ ?_, .refl content p.store⟩
    · simp only [Cursor.restart, Cursor.restart_restart]
    · simp only [Cursor.remaining, Shape.entries, hi]
  | atomize F i =>
    obtain ⟨hsi, hi⟩ := h.cursor i
    refine ⟨content, h.make hsi.restart ?_ ?_, .refl content p.store⟩
    · simp only [Cursor.atomize, Cursor.restart, Cursor.restart_restart]
    · simp only [Cursor.atomize, Cursor.remaining, Shape.entries, hi, expansion_nodeValues]
      rfl
  | select op i j =>
    obtain ⟨hsi, hi⟩ := h.cursor i
    obtain ⟨hsj, hj⟩ := h.cursor j
    refine ⟨content, h.make ?_ ?_ ?_, .refl content p.store⟩
    · cases op
      · exact ⟨⟨hsi.restart, hsj.restart⟩, trivial⟩
      · exact ⟨hsi.restart, hsj.restart⟩
      · exact ⟨hsi.restart, hsj.restart⟩
    · cases op <;>
        simp only [Stream.unordered, Stream.ofCursor, Cursor.concat, Cursor.ofList, Cursor.restart,
          Cursor.restart_restart]
    · rw [remaining_unordered, hi, hj]
      cases op <;> rfl
  | buffer i =>
    obtain ⟨hsi, hi⟩ := h.cursor i
    exact ⟨_, h.makeBuffered hsi hi, p.store.extends_buffer _ _⟩
  | clone i =>
    obtain ⟨hsi, hi⟩ := h.cursor i
    exact ⟨content, h.make hsi.restart (Cursor.restart_restart _) hi, .refl content p.store⟩
  | next i => exact ⟨content, h.next i, h.extends_next i⟩

/-- All handles stand where their replays stand behind every run of actions. -/
theorem foldl (h : p.Follows content rs) (actions : List Action) :
    ∃ content', (actions.foldl Pool.perform p).Follows content'
      (actions.foldl Replay.perform rs) := by
  induction actions generalizing p rs content with
  | nil => exact ⟨content, h⟩
  | cons a actions ih =>
    obtain ⟨_, h, -⟩ := h.perform a
    exact ih h

end Pool.Follows

/-! ### Replay -/

theorem Pool.exists_follows (actions : List Action) :
    ∃ content, (Pool.run actions).Follows content (Replay.run actions) :=
  (Pool.Follows.empty fun _ => []).foldl actions

/-- Every handle answers its k-th question with the k-th entry of its sequence, and with none
    behind the last one: whatever was asked of other handles, whenever it was copied and
    whatever it was made from. -/
theorem Pool.run_answers (actions : List Action) :
    (Pool.run actions).handles.map (·.answers) = (Replay.run actions).map (·.answers) := by
  obtain ⟨content, h⟩ := (Pool.Follows.empty fun _ => []).foldl actions
  apply List.ext_getElem?
  intro i
  rw [List.getElem?_map, List.getElem?_map]
  by_cases hi : i < (Pool.run actions).handles.length
  · have hrs : i < (Replay.run actions).length := h.length_eq ▸ hi
    have hread := h.handle i _ _ (List.getElem?_eq_getElem hi) (List.getElem?_eq_getElem hrs)
    rw [List.getElem?_eq_getElem hi, List.getElem?_eq_getElem hrs]
    exact congrArg some hread.answered
  · have hrs : ¬ i < (Replay.run actions).length := h.length_eq ▸ hi
    rw [List.getElem?_eq_none (Nat.le_of_not_lt hi), List.getElem?_eq_none (Nat.le_of_not_lt hrs)]
    rfl

end XPathData
