import XPathData.Proofs.Sequence.Counting

/-! # Streams in use

  Many streams read from one store at the same time. They are moved in turns, they are copied
  and asked at any moment, and new sequences are made of theirs while they are under way. Where
  a stream is follows from its sequence and from how often that stream was moved; nothing else
  that is done in a session moves it.

  * `Session.run` — streams over shared handles, and what is done with them
  * `Course` — a sequence and a number of moves, with the place that they lead to
  * `Itinerary.run` — the same uses without a store
  * `Session.run_follows` — every stream is where its course leads to
-/

namespace XPathData

/-! ### Uses -/

/-- What can be asked of a stream. -/
inductive Question where
  | count
  | isSingle
  | isEmpty
  | first
  | toList

/-- What can be done with streams and handles, which are named by numbers. -/
inductive Use where
  /-- Does something with handles. -/
  | handles (a : Action)
  /-- Makes a stream of the sequence of a handle. -/
  | start (h : Nat)
  /-- Makes a handle of the sequence of a stream, so that more can be made of it. -/
  | share (k : Nat)
  /-- Another stream of the same sequence, at its beginning. -/
  | clone (k : Nat)
  | move (k : Nat)
  | ask (q : Question) (k : Nat)

/-- The store behind a question. -/
def Question.ask (t : Stream) (s : Store) : Question → Store
  | count => (t.count s).2
  | isSingle => (t.isSingle s).2
  | isEmpty => (t.isEmpty s).2
  | first => (t.first s).2
  | toList => (t.toList s).2

/-! ### Streams over a store -/

/-- Handles with their store, and streams over them by number. -/
structure Session where
  pool : Pool
  streams : List Stream

namespace Session

/-- Nothing was made yet. -/
def empty : Session := ⟨.empty, []⟩

/-- The stream of a number; a number without a stream has the one without items. -/
def stream (p : Session) (k : Nat) : Stream := p.streams[k]?.getD .empty

/-- Makes a stream. -/
def make (p : Session) (t : Stream) : Session := { p with streams := p.streams ++ [t] }

/-- Puts another store behind all handles and streams. -/
def withStore (p : Session) (s : Store) : Session := { p with pool := { p.pool with store := s } }

/-- Moves a stream. -/
def move (p : Session) (k : Nat) : Session :=
  match p.streams[k]? with
  | none => p
  | some t =>
    let (_, t, s) := t.moveNext p.pool.store
    { p.withStore s with streams := p.streams.set k t }

/-- Does what a use says. -/
def perform (p : Session) : Use → Session
  | .handles a => { p with pool := p.pool.perform a }
  | .start h => p.make (.ofCursor (p.pool.cursor h).restart)
  | .share k => { p with pool := p.pool.make (p.stream k).cursor.restart }
  | .clone k => p.make (p.stream k).restart
  | .move k => p.move k
  | .ask q k => p.withStore (q.ask (p.stream k) p.pool.store)

/-- Does what the uses say, one after the other. -/
def run (uses : List Use) : Session := uses.foldl perform empty

end Session

/-! ### The same without a store -/

/-- A sequence and how often it was tried to go on in it. -/
structure Course where
  shape : Shape
  moves : Nat

namespace Course

/-- The items that moving leads to. -/
def items (c : Course) : List Item := leadingItems c.shape.entries

/-- How many entries were read: behind the items one more, which is an error or the end. -/
def reads (c : Course) : Nat := min c.moves (c.items.length + 1)

/-- Moving over all items does not finish a course; the move behind the last one does. -/
def state (c : Course) : StreamState :=
  if c.moves = 0 then .notStarted
  else if c.moves ≤ c.items.length then .iterating
  else .finished

def position (c : Course) : Nat := min c.moves c.items.length

/-- The item that the last move led to. -/
def current? (c : Course) : Option Item := if c.moves = 0 then none else c.items[c.moves - 1]?

/-- Goes on once more. -/
def move (c : Course) : Course := { c with moves := c.moves + 1 }

end Course

/-- Handles as they should be read, and streams as they should be moved. -/
structure Itinerary where
  replays : List Replay
  courses : List Course

namespace Itinerary

/-- Nothing was made yet. -/
def empty : Itinerary := ⟨[], []⟩

/-- The sequence of a stream; a number without a stream has the one without items. -/
def shapeOf (r : Itinerary) (k : Nat) : Shape := (r.courses[k]?.map (·.shape)).getD (.items [])

/-- Makes a stream at its beginning. -/
def make (r : Itinerary) (shape : Shape) : Itinerary :=
  { r with courses := r.courses ++ [⟨shape, 0⟩] }

/-- Does what a use says. Only moving a stream moves it, and only that one. -/
def perform (r : Itinerary) : Use → Itinerary
  | .handles a => { r with replays := Replay.perform r.replays a }
  | .start h => r.make (Replay.shapeOf r.replays h)
  | .share k => { r with replays := Replay.make r.replays (r.shapeOf k) }
  | .clone k => r.make (r.shapeOf k)
  | .move k => { r with courses := r.courses.modify k Course.move }
  | .ask _ _ => r

/-- Does what the uses say, one after the other. -/
def run (uses : List Use) : Itinerary := uses.foldl perform empty

end Itinerary

/-! ### Streams and their courses -/

variable {content content' : Nat → List Entry} {s s' : Store} {t : Stream} {c : Course}

/-- A stream stands where its course leads to. -/
structure Stream.Stands (content : Nat → List Entry) (s : Store) (t : Stream) (c : Course) :
    Prop where
  sound : t.cursor.Sound s s.buffers.size
  /-- A fresh copy reads the whole sequence. -/
  whole : t.cursor.restart.remaining content = c.shape.entries
  left : t.cursor.remaining content = c.shape.entries.drop c.reads
  state : t.state = c.state
  position : t.position = c.position
  current? : t.current? = c.current?

namespace Stream.Stands

/-- What becomes of the store elsewhere does not move a stream. -/
theorem later (h : t.Stands content s c) (hs : s.Extends content content' s') :
    t.Stands content' s' c where
  sound := (h.sound.later hs.grows).mono hs.size_le
  whole := by rw [← Cursor.remaining_congr h.sound.restart hs.agree, h.whole]
  left := by rw [← Cursor.remaining_congr h.sound hs.agree, h.left]
  state := h.state
  position := h.position
  current? := h.current?

theorem lists (h : t.Stands content s c) (hs : s.Holds content) :
    t.Lists content s c.shape.entries :=
  ⟨hs, h.sound, h.whole⟩

/-- A stream at the start of a sequence was not moved. -/
theorem ofCursor {cursor : Cursor} {shape : Shape} (hsound : cursor.Sound s s.buffers.size)
    (hwhole : cursor.restart.remaining content = shape.entries) :
    (Stream.ofCursor cursor.restart).Stands content s ⟨shape, 0⟩ where
  sound := hsound.restart
  whole := by
    show cursor.restart.restart.remaining content = shape.entries
    rw [Cursor.restart_restart, hwhole]
  left := by
    show cursor.restart.remaining content = shape.entries.drop (min 0 _)
    rw [hwhole, Nat.zero_min, List.drop_zero]
  state := rfl
  position := (Nat.zero_min _).symm
  current? := rfl

end Stream.Stands

/-- What moving meets at the place it has come to: an item, the first error or the end. -/
theorem Course.head?_drop (c : Course) (hmoves : c.moves ≤ c.items.length) :
    (c.shape.entries.drop c.moves).head? =
      match c.items[c.moves]? with
      | some x => some (.ok x)
      | none => (firstError? c.shape.entries).map .error := by
  rcases Nat.lt_or_eq_of_le hmoves with hlt | heq
  · rw [List.getElem?_eq_getElem hlt]
    exact congrArg List.head? (drop_eq_cons hlt)
  · rw [List.getElem?_eq_none (Nat.le_of_eq heq.symm), heq]
    exact head?_drop_leading c.shape.entries

namespace Course

theorem state_of_le (h : c.moves ≤ c.items.length) : c.state ≠ .finished := by
  unfold state
  split <;> simp

theorem state_of_lt (h : c.items.length < c.moves) : c.state = .finished := by
  rw [state, if_neg (Nat.ne_of_gt (Nat.zero_lt_of_lt h)), if_neg (Nat.not_le.2 h)]

/-- Before the last item a move leads to the next one. -/
theorem move_of_lt (h : c.moves < c.items.length) :
    c.move.state = .iterating ∧ c.move.position = c.position + 1 ∧
      c.move.current? = some c.items[c.moves] := by
  have hitems : c.move.items = c.items := rfl
  have hmoves : c.move.moves = c.moves + 1 := rfl
  refine ⟨?_, ?_, ?_⟩
  · rw [state, hmoves, hitems, if_neg (Nat.succ_ne_zero _),
      if_pos (Nat.succ_le_of_lt h)]
  · rw [position, position, hmoves, hitems]
    omega
  · rw [current?, hmoves, hitems, if_neg (Nat.succ_ne_zero _)]
    exact List.getElem?_eq_getElem h

/-- At the last item a move leads behind it, and from there nowhere. -/
theorem move_of_le (h : c.items.length ≤ c.moves) :
    c.move.state = .finished ∧ c.move.position = c.position ∧ c.move.current? = none := by
  have hitems : c.move.items = c.items := rfl
  have hmoves : c.move.moves = c.moves + 1 := rfl
  refine ⟨?_, ?_, ?_⟩
  · exact state_of_lt (Nat.lt_succ_of_le h)
  · rw [position, position, hmoves, hitems]
    omega
  · rw [current?, hmoves, hitems, if_neg (Nat.succ_ne_zero _)]
    exact List.getElem?_eq_none h

theorem current?_of_lt (h : c.items.length < c.moves) : c.current? = none := by
  rw [current?, if_neg (Nat.ne_of_gt (Nat.zero_lt_of_lt h))]
  exact List.getElem?_eq_none (Nat.le_sub_one_of_lt h)

end Course

/-- Moving a stream takes it one move further on its course. -/
theorem Stream.Stands.moveNext (hs : s.Holds content) (h : t.Stands content s c) :
    Stream.Stands content (t.moveNext s).2.2 (t.moveNext s).2.1 c.move ∧
      s.Follows content s.buffers.size (t.moveNext s).2.2 := by
  obtain ⟨hsound, hwhole, hleft, hstate, hposition, hcurrent⟩ := h
  by_cases hmoves : c.moves ≤ c.items.length
  · -- The stream is not finished, and the next entry is the first one that its cursor has left.
    have hreads : c.reads = c.moves := Nat.min_eq_left (Nat.le_succ_of_le hmoves)
    have hreads' : c.move.reads = c.moves + 1 := Nat.min_eq_left (Nat.succ_le_succ hmoves)
    obtain ⟨hfollows, hsound', hrestart, hhead, htail⟩ := Cursor.next_reads hs hsound
    rw [hleft, hreads, c.head?_drop hmoves] at hhead
    rw [hleft, hreads, List.tail_drop, ← hreads'] at htail
    have hwhole' : (t.cursor.next s).2.1.restart.remaining content = c.move.shape.entries := by
      rw [hrestart, hwhole]
      rfl
    rw [Stream.moveNext, if_neg (hstate ▸ Course.state_of_le hmoves)]
    rcases hnext : t.cursor.next s with ⟨out, cursor, s'⟩
    rw [hnext] at hfollows hsound' hhead htail hwhole'
    simp only at hfollows hsound' hhead htail hwhole'
    rcases Nat.lt_or_eq_of_le hmoves with hlt | heq
    · obtain ⟨hstate', hposition', hcurrent'⟩ := Course.move_of_lt hlt
      rw [List.getElem?_eq_getElem hlt] at hhead
      subst hhead
      exact ⟨⟨hsound', hwhole', htail, hstate'.symm,
        (congrArg (· + 1) hposition).trans hposition'.symm, hcurrent'.symm⟩, hfollows⟩
    · obtain ⟨hstate', hposition', hcurrent'⟩ := Course.move_of_le (Nat.le_of_eq heq.symm)
      rw [List.getElem?_eq_none (Nat.le_of_eq heq.symm)] at hhead
      subst hhead
      -- An error finishes the stream in the same way as the end does.
      cases firstError? c.shape.entries <;>
        exact ⟨⟨hsound', hwhole', htail, hstate'.symm, hposition.trans hposition'.symm,
          hcurrent'.symm⟩, hfollows⟩
  · -- A finished stream stays where it is.
    have hlt : c.items.length < c.moves := Nat.lt_of_not_le hmoves
    obtain ⟨hstate', hposition', hcurrent'⟩ := Course.move_of_le (Nat.le_of_lt hlt)
    have hreads : c.move.reads = c.reads := by
      simp only [Course.reads, Course.move, Course.items] at hlt ⊢
      omega
    rw [Stream.moveNext, if_pos (hstate.trans (Course.state_of_lt hlt))]
    refine ⟨⟨hsound, hwhole, ?_, ?_, ?_, ?_⟩, .refl hs⟩
    · rw [hleft, ← hreads]
      rfl
    · rw [hstate, hstate', Course.state_of_lt hlt]
    · rw [hposition, hposition']
    · rw [hcurrent, hcurrent', Course.current?_of_lt hlt]

/-! ### What is answered -/

/-- The first item of entries; an error in its place fails. -/
def headItem : List Entry → Except Error (Option Item)
  | [] => .ok none
  | .ok x :: _ => .ok (some x)
  | .error e :: _ => .error e

/-- Whether entries are one item, which the first two of them show. -/
def isOneItem : List Entry → Except Error Bool
  | [] => .ok false
  | [.ok _] => .ok true
  | .ok _ :: .ok _ :: _ => .ok false
  | .error e :: _ => .error e
  | .ok _ :: .error e :: _ => .error e

theorem foldItems_length (n : Nat) (entries : List Entry) :
    foldItems id (fun n _ => .more (n + 1)) id n entries =
      (collect entries).map fun l => n + l.length := by
  induction entries generalizing n with
  | nil => rfl
  | cons e entries ih =>
    cases e with
    | error e => rfl
    | ok x =>
      simp only [foldItems, ih]
      unfold collect
      simp only [firstError?, leadingItems]
      split
      · simp only [Except.map, List.length_cons]
        rw [Nat.add_assoc, Nat.add_comm 1]
      · rfl

variable {entries : List Entry}

theorem Cursor.Left.length {c : Cursor} (h : c.Left content s entries) :
    ∃ s', c.length s = ((collect entries).map List.length, s') ∧
      s.Follows content s.buffers.size s' := by
  obtain ⟨s', hread, hfollows⟩ := h.readItems id (fun n _ => .more (n + 1)) id 0
  refine ⟨s', ?_, hfollows⟩
  rw [Cursor.length, hread, foldItems_length]
  simp only [Nat.zero_add]

namespace Stream.Lists

theorem first (h : t.Lists content s entries) :
    ∃ s', t.first s = (headItem entries, s') ∧ s.Follows content s.buffers.size s' := by
  match entries with
  | [] => exact h.first_nil
  | .ok x :: l => exact h.first_ok
  | .error e :: l => exact h.first_error

theorem count_of_finished (hstate : t.state = .finished) : t.count s = (.ok t.position, s) := by
  rw [Stream.count, if_pos hstate]

theorem count_of_exactLength? {n : Nat} (hstate : t.state ≠ .finished)
    (hexact : t.cursor.exactLength? s = some n) : t.count s = (.ok n, s) := by
  rw [Stream.count, if_neg hstate, hexact]

/-- A number that is not known is found by reading. -/
theorem count_of_none (h : t.Lists content s entries) (hstate : t.state ≠ .finished)
    (hexact : t.cursor.exactLength? s = none) :
    ∃ s', t.count s = ((collect entries).map List.length, s') ∧
      s.Follows content s.buffers.size s' := by
  rw [Stream.count, if_neg hstate, hexact]
  exact h.left.length

theorem isSingle_of_none (h : t.Lists content s entries)
    (hexact : t.cursor.exactLength? s = none) :
    ∃ s', t.isSingle s = (isOneItem entries, s') ∧ s.Follows content s.buffers.size s' := by
  simp only [Stream.isSingle, hexact]
  match entries with
  | [] =>
    obtain ⟨c', s', hfetch, hfollows⟩ := h.left.fetch_nil
    exact ⟨s', Fetch.bind_ok hfetch, hfollows⟩
  | .error e :: l =>
    obtain ⟨s', hfetch, hfollows⟩ := h.left.fetch_error
    exact ⟨s', Fetch.bind_error hfetch, hfollows⟩
  | .ok x :: l =>
    obtain ⟨c', s', hfetch, hleft, hfollows⟩ := h.left.fetch_ok
    rw [Fetch.bind_ok hfetch]
    match l with
    | [] =>
      obtain ⟨c'', s'', hfetch', hfollows'⟩ := hleft.fetch_nil
      exact ⟨s'', Fetch.bind_ok hfetch', hfollows.andThen hfollows'⟩
    | .error e :: l =>
      obtain ⟨s'', hfetch', hfollows'⟩ := hleft.fetch_error
      exact ⟨s'', Fetch.bind_error hfetch', hfollows.andThen hfollows'⟩
    | .ok y :: l =>
      obtain ⟨c'', s'', hfetch', -, hfollows'⟩ := hleft.fetch_ok
      exact ⟨s'', Fetch.bind_ok hfetch', hfollows.andThen hfollows'⟩

/-- A question leaves all buffers with their contents. -/
theorem ask (h : t.Lists content s entries) (q : Question) :
    s.Follows content s.buffers.size (q.ask t s) := by
  cases q with
  | count =>
    by_cases hstate : t.state = .finished
    · simp only [Question.ask, count_of_finished hstate]
      exact .refl h.holds
    · cases hexact : t.cursor.exactLength? s with
      | some n =>
        simp only [Question.ask, count_of_exactLength? hstate hexact]
        exact .refl h.holds
      | none =>
        obtain ⟨s', hcount, hfollows⟩ := h.count_of_none hstate hexact
        simp only [Question.ask, hcount]
        exact hfollows
  | isSingle =>
    cases hexact : t.cursor.exactLength? s with
    | some n =>
      simp only [Question.ask, Stream.isSingle, hexact]
      exact .refl h.holds
    | none =>
      obtain ⟨s', hsingle, hfollows⟩ := h.isSingle_of_none hexact
      simp only [Question.ask, hsingle]
      exact hfollows
  | isEmpty => exact h.isEmpty_follows
  | first =>
    obtain ⟨s', hfirst, hfollows⟩ := h.first
    simp only [Question.ask, hfirst]
    exact hfollows
  | toList =>
    obtain ⟨s', hlist, hfollows⟩ := h.toList
    simp only [Question.ask, hlist]
    exact hfollows

end Stream.Lists

/-! ### Sessions and their itineraries -/

/-- All handles and all streams of a session are where they should be. -/
structure Session.Follows (content : Nat → List Entry) (p : Session) (r : Itinerary) : Prop where
  pool : p.pool.Follows content r.replays
  length_eq : p.streams.length = r.courses.length
  stands : ∀ (k : Nat) (t : Stream) (c : Course), p.streams[k]? = some t →
    r.courses[k]? = some c → t.Stands content p.pool.store c

/-- Handles do not notice what is read elsewhere. -/
theorem Pool.Follows.later {p : Pool} {rs : List Replay} (h : p.Follows content rs)
    (hs : p.store.Follows content p.store.buffers.size s') :
    Pool.Follows content { p with store := s' } rs :=
  ⟨hs.holds, h.length_eq, fun i g r hg hr => (h.handle i g r hg hr).later hs⟩

namespace Session.Follows

variable {p : Session} {r : Itinerary}

theorem empty (content : Nat → List Entry) : Session.empty.Follows content .empty where
  pool := .empty content
  length_eq := rfl
  stands _ _ _ h := by simp [Session.empty] at h

theorem handles (h : p.Follows content r) {pool : Pool} {replays : List Replay}
    (hpool : pool.Follows content' replays)
    (hs : p.pool.store.Extends content content' pool.store) :
    Session.Follows content' { p with pool := pool } { r with replays := replays } :=
  ⟨hpool, h.length_eq, fun k t c ht hc => (h.stands k t c ht hc).later hs⟩

theorem withStore (h : p.Follows content r)
    (hs : p.pool.store.Follows content p.pool.store.buffers.size s') :
    (p.withStore s').Follows content r :=
  h.handles (h.pool.later hs) hs.extends

/-- The stream of a number reads the sequence of that number. -/
theorem stream (h : p.Follows content r) (k : Nat) :
    (p.stream k).Lists content p.pool.store (r.shapeOf k).entries := by
  unfold Session.stream Itinerary.shapeOf
  by_cases hk : k < p.streams.length
  · have hr : k < r.courses.length := h.length_eq ▸ hk
    rw [List.getElem?_eq_getElem hk, List.getElem?_eq_getElem hr]
    exact (h.stands k _ _ (List.getElem?_eq_getElem hk)
      (List.getElem?_eq_getElem hr)).lists h.pool.holds
  · have hr : ¬ k < r.courses.length := h.length_eq ▸ hk
    rw [List.getElem?_eq_none (Nat.le_of_not_lt hk), List.getElem?_eq_none (Nat.le_of_not_lt hr)]
    exact Stream.Lists.ofList h.pool.holds []

theorem make (h : p.Follows content r) {shape : Shape}
    (ht : t.Stands content p.pool.store ⟨shape, 0⟩) :
    (p.make t).Follows content (r.make shape) := by
  refine ⟨h.pool, by simp [Session.make, Itinerary.make, h.length_eq], fun k u c hu hc => ?_⟩
  simp only [Session.make] at hu
  simp only [Itinerary.make] at hc
  rcases Nat.lt_trichotomy k p.streams.length with hk | hk | hk
  · rw [List.getElem?_append_left hk] at hu
    rw [List.getElem?_append_left (h.length_eq ▸ hk)] at hc
    exact h.stands k u c hu hc
  · rw [hk, List.getElem?_concat_length] at hu
    rw [hk, h.length_eq, List.getElem?_concat_length] at hc
    cases hu
    cases hc
    exact ht
  · have hlt := (List.getElem?_eq_some_iff.1 hu).1
    simp only [List.length_append, List.length_singleton] at hlt
    omega

theorem move (h : p.Follows content r) (k : Nat) :
    (p.move k).Follows content { r with courses := r.courses.modify k Course.move } := by
  by_cases hk : k < p.streams.length
  · have hr : k < r.courses.length := h.length_eq ▸ hk
    obtain ⟨hmoved, hfollows⟩ := (h.stands k _ _ (List.getElem?_eq_getElem hk)
      (List.getElem?_eq_getElem hr)).moveNext h.pool.holds
    simp only [Session.move, List.getElem?_eq_getElem hk]
    refine ⟨h.pool.later hfollows, by simp [h.length_eq], fun j u c hu hc => ?_⟩
    simp only [List.getElem?_modify] at hu hc
    by_cases hj : k = j
    · subst hj
      rw [List.getElem?_set_self hk] at hu
      simp only [List.getElem?_eq_getElem hr, Option.map_eq_map, Option.map_some, ↓reduceIte]
        at hc
      cases hu
      cases hc
      exact hmoved
    · rw [List.getElem?_set_ne hj] at hu
      simp only [hj, ↓reduceIte, id_map'] at hc
      exact (h.stands j u c hu hc).later hfollows.extends
  · have hr : ¬ k < r.courses.length := h.length_eq ▸ hk
    rw [List.modify_eq_self (Nat.le_of_not_lt hr)]
    simp only [Session.move, List.getElem?_eq_none (Nat.le_of_not_lt hk)]
    exact h

theorem extends_move (h : p.Follows content r) (k : Nat) :
    p.pool.store.Extends content content (p.move k).pool.store := by
  unfold Session.move
  cases hk : p.streams[k]? with
  | none => exact .refl content p.pool.store
  | some t =>
    have hr : k < r.courses.length := h.length_eq ▸ (List.getElem?_eq_some_iff.1 hk).1
    have hstands := h.stands k t _ hk (List.getElem?_eq_getElem hr)
    exact (hstands.moveNext h.pool.holds).2.extends

/-- Whatever is done, all handles and streams stay where they should be, and nothing that was read
    is lost. -/
theorem perform (h : p.Follows content r) (u : Use) :
    ∃ content', (p.perform u).Follows content' (r.perform u) ∧
      p.pool.store.Extends content content' (p.perform u).pool.store := by
  cases u with
  | handles a =>
    obtain ⟨content', hpool, hs⟩ := h.pool.perform a
    exact ⟨content', h.handles hpool hs, hs⟩
  | start i =>
    obtain ⟨hsound, hwhole⟩ := h.pool.cursor i
    exact ⟨content, h.make (.ofCursor hsound hwhole), .refl content _⟩
  | share k =>
    have ht := h.stream k
    exact ⟨content, h.handles (h.pool.make ht.sound.restart (Cursor.restart_restart _) ht.whole)
      (.refl content _), .refl content _⟩
  | clone k =>
    have ht := h.stream k
    exact ⟨content, h.make (.ofCursor ht.sound ht.whole), .refl content _⟩
  | move k => exact ⟨content, h.move k, h.extends_move k⟩
  | ask q k =>
    have hs := (h.stream k).ask q
    exact ⟨content, h.withStore hs, hs.extends⟩

end Session.Follows

/-- Every run of uses leads all handles and streams to where they should be. -/
theorem Session.run_follows (uses : List Use) :
    ∃ content, (Session.run uses).Follows content (Itinerary.run uses) := by
  suffices hrun : ∀ (uses : List Use) (content : Nat → List Entry) (p : Session) (r : Itinerary),
      p.Follows content r →
        ∃ content', (uses.foldl perform p).Follows content' (uses.foldl Itinerary.perform r) from
    hrun uses (fun _ => []) .empty .empty (.empty _)
  intro uses
  induction uses with
  | nil => exact fun content p r h => ⟨content, h⟩
  | cons u uses ih =>
    intro content p r h
    obtain ⟨content', h, -⟩ := h.perform u
    exact ih content' _ _ h

/-- The stream of a course is where the course leads to. -/
theorem Session.exists_stands {uses : List Use} {k : Nat}
    (h : (Itinerary.run uses).courses[k]? = some c) :
    ∃ content t, (Session.run uses).streams[k]? = some t ∧
      t.Stands content (Session.run uses).pool.store c ∧
        (Session.run uses).pool.store.Holds content := by
  obtain ⟨content, hrun⟩ := Session.run_follows uses
  have hk : k < (Session.run uses).streams.length :=
    hrun.length_eq ▸ (List.getElem?_eq_some_iff.1 h).1
  exact ⟨content, _, List.getElem?_eq_getElem hk,
    hrun.stands k _ _ (List.getElem?_eq_getElem hk) h, hrun.pool.holds⟩

end XPathData
