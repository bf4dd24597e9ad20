import XPathData.Proofs.Sequence.Answers

/-! # Streams given up for their reader

  A stream can be given up for its reader at any moment. The reader goes on behind the entries
  that the stream has read, whatever else is done at the same time. It knows nothing of the state
  of the stream: a stream that an error has finished is moved no more, but its reader gives the
  entries behind that error.

  * `Handover.run` — a reader and a session that goes on beside it
  * `Handover.Follows.run` — the reader gives what the stream had left
  * `Session.handover_answers` — what is left in each state of the stream
  * `Session.finished_stream_goes_on` — the entry behind an error
-/

namespace XPathData

/-! ### A reader beside a session -/

/-- A session, and the reader of a stream that was given up in it. -/
structure Handover where
  session : Session
  /-- The reader, with what it has answered. -/
  reader : Handle

namespace Handover

/-- What is done behind the moment at which the stream was given up. -/
inductive Turn where
  /-- Something is done with streams and handles. -/
  | use (u : Use)
  /-- The reader is asked for its next entry. -/
  | pull

/-- A question to the reader. -/
def Turn.isPull : Turn → Bool
  | use _ => false
  | pull => true

/-- Gives a stream up for its reader, which has answered nothing yet. -/
def start (p : Session) (t : Stream) : Handover := ⟨p, ⟨t.rest, []⟩⟩

/-- Asks the reader for its next entry. -/
def pull (w : Handover) : Handover :=
  let (e, c, s) := w.reader.cursor.next w.session.pool.store
  ⟨w.session.withStore s, ⟨c, w.reader.answers ++ [e]⟩⟩

/-- Takes a turn. -/
def perform (w : Handover) : Turn → Handover
  | .use u => { w with session := w.session.perform u }
  | .pull => w.pull

/-- Takes turns, one after the other. -/
def run (w : Handover) (turns : List Turn) : Handover := turns.foldl perform w

end Handover

variable {content : Nat → List Entry} {c : Course}

/-- The reader stands behind `pulls` of the entries that were left when the stream was given up,
    and it has answered with those. -/
structure Handover.Follows (content : Nat → List Entry) (w : Handover) (r : Itinerary)
    (rest : List Entry) (pulls : Nat) : Prop where
  session : w.session.Follows content r
  sound : w.reader.cursor.Sound w.session.pool.store w.session.pool.store.buffers.size
  left : w.reader.cursor.remaining content = rest.drop pulls
  answered : w.reader.answers = (List.range pulls).map fun j => rest[j]?

namespace Handover.Follows

variable {w : Handover} {r : Itinerary} {rest : List Entry} {pulls : Nat}

/-- What is done with other streams and handles does not move the reader. -/
theorem use (h : w.Follows content r rest pulls) (u : Use) :
    ∃ content', (w.perform (.use u)).Follows content' (r.perform u) rest pulls := by
  obtain ⟨content', hsession, hs⟩ := h.session.perform u
  refine ⟨content', hsession, ?_, ?_, h.answered⟩
  · exact (h.sound.later hs.grows).mono hs.size_le
  · show w.reader.cursor.remaining content' = rest.drop pulls
    rw [← Cursor.remaining_congr h.sound hs.agree, h.left]

/-- A question takes the reader one entry further. -/
theorem pull (h : w.Follows content r rest pulls) :
    (w.perform .pull).Follows content r rest (pulls + 1) := by
  obtain ⟨hfollows, hsound, -, hhead, htail⟩ := Cursor.next_reads h.session.pool.holds h.sound
  refine ⟨h.session.withStore hfollows, hsound, ?_, ?_⟩
  · show (w.reader.cursor.next w.session.pool.store).2.1.remaining content = _
    rw [htail, h.left, List.tail_drop]
  · show w.reader.answers ++ [(w.reader.cursor.next w.session.pool.store).1] = _
    rw [h.answered, hhead, h.left, List.head?_drop, List.range_succ, List.map_append]
    rfl

/-- Whatever is done beside it, the reader answers with one entry after the other. -/
theorem run (h : w.Follows content r rest pulls) (turns : List Turn) :
    ∃ content' r', (w.run turns).Follows content' r' rest (pulls + turns.countP Turn.isPull) := by
  induction turns generalizing content w r pulls with
  | nil => exact ⟨content, r, h⟩
  | cons turn turns ih =>
    cases turn with
    | use u =>
      obtain ⟨content', h'⟩ := h.use u
      exact ih h'
    | pull =>
      -- This question comes before those of the other turns.
      obtain ⟨content', r', h'⟩ := ih h.pull
      refine ⟨content', r', ?_⟩
      rw [List.countP_cons_of_pos rfl, Nat.add_comm _ 1, ← Nat.add_assoc]
      exact h'

/-- At the moment at which a stream is given up, its reader stands where the stream stands. -/
theorem start {p : Session} {t : Stream} (hp : p.Follows content r)
    (ht : t.Stands content p.pool.store c) :
    (Handover.start p t).Follows content r (c.shape.entries.drop c.reads) 0 where
  session := hp
  sound := ht.sound
  left := ht.left
  answered := rfl

end Handover.Follows

/-! ### What a course has left -/

namespace Course

/-- A course that is not finished has read one entry with each move. -/
theorem reads_of_not_finished (h : c.state ≠ .finished) : c.reads = c.moves := by
  have hmoves : c.moves ≤ c.items.length := Nat.le_of_not_lt fun hlt => h (state_of_lt hlt)
  exact Nat.min_eq_left (Nat.le_succ_of_le hmoves)

/-- A finished course has read its items and one entry more, or found the end behind them. -/
theorem reads_of_finished (h : c.state = .finished) : c.reads = c.items.length + 1 :=
  Nat.min_eq_right (finished_iff.1 h)

end Course

/-- Entries are the items before the first error, that error, and those behind it. -/
theorem eq_leading_append {entries : List Entry} {e : Error} (h : firstError? entries = some e) :
    entries = (leadingItems entries).map .ok ++
      .error e :: entries.drop ((leadingItems entries).length + 1) := by
  induction entries with
  | nil => cases h
  | cons entry l ih =>
    cases entry with
    | error e' =>
      cases h
      rfl
    | ok x =>
      have hl := ih h
      simp only [leadingItems, List.map_cons, List.length_cons, List.drop_succ_cons,
        List.cons_append, ← hl]

/-! ### Courses go on -/

/-- No use takes a course back or changes its sequence. -/
theorem Itinerary.perform_persist {r : Itinerary} {k : Nat} (h : r.courses[k]? = some c)
    (u : Use) :
    ∃ c', (r.perform u).courses[k]? = some c' ∧ c'.shape = c.shape ∧ c.moves ≤ c'.moves := by
  have hk : k < r.courses.length := (List.getElem?_eq_some_iff.1 h).1
  cases u with
  | handles | share | ask => exact ⟨c, h, rfl, Nat.le_refl _⟩
  | start | clone =>
    refine ⟨c, ?_, rfl, Nat.le_refl _⟩
    show (r.courses ++ _)[k]? = some c
    rw [List.getElem?_append_left hk, h]
  | move j =>
    show ∃ c', (r.courses.modify j Course.move)[k]? = some c' ∧ _
    rw [List.getElem?_modify, h]
    by_cases hj : j = k
    · refine ⟨c.move, ?_, rfl, Nat.le_succ _⟩
      simp only [Option.map_eq_map, Option.map_some, if_pos hj]
    · refine ⟨c, ?_, rfl, Nat.le_refl _⟩
      simp only [Option.map_eq_map, Option.map_some, if_neg hj]

theorem Itinerary.foldl_persist {r : Itinerary} {k : Nat} (h : r.courses[k]? = some c)
    (uses : List Use) :
    ∃ c', (uses.foldl Itinerary.perform r).courses[k]? = some c' ∧ c'.shape = c.shape ∧
      c.moves ≤ c'.moves := by
  induction uses generalizing r c with
  | nil => exact ⟨c, h, rfl, Nat.le_refl _⟩
  | cons u uses ih =>
    obtain ⟨c', h', hshape, hmoves⟩ := Itinerary.perform_persist h u
    obtain ⟨c'', h'', hshape', hmoves'⟩ := ih h'
    exact ⟨c'', h'', hshape'.trans hshape, Nat.le_trans hmoves hmoves'⟩

/-- A finished stream stays finished, and moving it finds nothing. -/
theorem Session.finished_persist {uses : List Use} {k : Nat}
    (h : (Itinerary.run uses).courses[k]? = some c) (hstate : c.state = .finished)
    (more : List Use) :
    ∃ t, (Session.run (uses ++ more)).streams[k]? = some t ∧ t.state = .finished ∧
      ∀ s, t.moveNext s = (.ok false, t, s) := by
  obtain ⟨c', h', hshape, hmoves⟩ := Itinerary.foldl_persist h more
  have hmore : (Itinerary.run (uses ++ more)).courses[k]? = some c' := by
    rw [Itinerary.run, List.foldl_append]
    exact h'
  obtain ⟨content, t, ht, hstands, -⟩ := Session.exists_stands hmore
  have hitems : c'.items = c.items := by rw [Course.items, Course.items, hshape]
  have hbehind : c'.items.length < c'.moves := by
    rw [hitems]
    exact Nat.lt_of_lt_of_le (Course.finished_iff.1 hstate) hmoves
  have hfinished : t.state = .finished := hstands.state.trans (Course.state_of_lt hbehind)
  refine ⟨t, ht, hfinished, ?_⟩
  intro s
  rw [Stream.moveNext, if_pos hfinished]

/-! ### What is left -/

/-- However streams are made, copied, moved and asked, and whatever is done while its reader is
    read: a stream that is given up before it has finished gives exactly the entries behind those
    that it was moved over, and one that the end has finished gives nothing. One that an error has
    finished gives all entries behind that error, though it is moved over none of them. -/
theorem Session.handover_answers {uses : List Use} {k : Nat}
    (h : (Itinerary.run uses).courses[k]? = some c) :
    ∃ t rest, (Session.run uses).streams[k]? = some t ∧ t.state = c.state ∧
      (∀ turns : List Handover.Turn,
        ((Handover.start (Session.run uses) t).run turns).reader.answers =
          (List.range (turns.countP Handover.Turn.isPull)).map fun j => rest[j]?) ∧
      (c.state ≠ .finished → rest = c.shape.entries.drop c.moves) ∧
      (c.state = .finished → firstError? c.shape.entries = none → rest = []) ∧
      (∀ e, c.state = .finished → firstError? c.shape.entries = some e →
        c.shape.entries = c.items.map .ok ++ .error e :: rest) ∧
      (c.state = .finished → ∀ more : List Use, ∃ t',
        (Session.run (uses ++ more)).streams[k]? = some t' ∧ t'.state = .finished ∧
          ∀ s, t'.moveNext s = (.ok false, t', s)) := by
  obtain ⟨content, hrun⟩ := Session.run_follows uses
  have hk : k < (Session.run uses).streams.length :=
    hrun.length_eq ▸ (List.getElem?_eq_some_iff.1 h).1
  have hstands := hrun.stands k _ c (List.getElem?_eq_getElem hk) h
  refine ⟨_, c.shape.entries.drop c.reads, List.getElem?_eq_getElem hk, hstands.state, ?_, ?_, ?_,
    ?_, ?_⟩
  · intro turns
    obtain ⟨content', r', hread⟩ := (Handover.Follows.start hrun hstands).run turns
    rw [hread.answered, Nat.zero_add]
  · intro hstate
    rw [Course.reads_of_not_finished hstate]
  · -- Without an error the items are all entries, and the course has gone past them.
    intro hstate hnone
    have hall : c.items.length = c.shape.entries.length := length_leadingItems_of_none hnone
    rw [Course.reads_of_finished hstate, hall]
    exact List.drop_eq_nil_of_le (Nat.le_succ _)
  · intro e hstate he
    rw [Course.reads_of_finished hstate]
    exact eq_leading_append he
  · exact Session.finished_persist h

/-- A producer that fails behind its first item and then goes on: behind two moves the stream has
    finished, and its reader gives what comes behind the error. -/
theorem Session.handover_answers_behind_error :
    let x : Item := .atomic (.boolean true)
    let e : Error := .ofCode .invalidArgument "x"
    let uses : List Use :=
      [.handles (.produce "p" [.ok x, .error e, .ok x, .error e]), .start 0, .move 0, .move 0]
    ∃ t, (Session.run uses).streams[0]? = some t ∧ t.state = .finished ∧
      (∀ turns : List Handover.Turn,
        ((Handover.start (Session.run uses) t).run turns).reader.answers =
          (List.range (turns.countP Handover.Turn.isPull)).map
            fun j => [.ok x, .error e][j]?) ∧
      ∀ more : List Use, ∃ t', (Session.run (uses ++ more)).streams[0]? = some t' ∧
        t'.state = .finished ∧ ∀ s, t'.moveNext s = (.ok false, t', s) := by
  intro x e uses
  have hcourse : (Itinerary.run uses).courses[0]? =
      some ⟨.produced [.ok x, .error e, .ok x, .error e], 2⟩ := rfl
  obtain ⟨t, rest, ht, hstate, hanswers, -, -, hbehind, hpersist⟩ :=
    Session.handover_answers hcourse
  have hrest := hbehind e rfl rfl
  have hrest' : rest = [.ok x, .error e] := by
    injection hrest with _ hrest
    injection hrest with _ hrest
    exact hrest.symm
  rw [hrest'] at hanswers
  exact ⟨t, ht, hstate, hanswers, hpersist rfl⟩

/-- A stream that an error has finished is moved no more, and yet its reader gives the item behind
    the error. -/
theorem Session.finished_stream_goes_on :
    let x : Item := .atomic (.boolean true)
    let p := Session.run [.handles (.produce "p" [.error (.ofCode .invalidArgument "x"), .ok x]),
      .start 0, .move 0]
    (p.stream 0).state = .finished ∧ ((p.stream 0).moveNext p.pool.store).1 = .ok false ∧
      ((p.stream 0).rest.next p.pool.store).1 = some (.ok x) := by
  intro x p
  exact ⟨rfl, rfl, rfl⟩

end XPathData
