import XPathData.Sequence.Reading
import XPathData.Sequence.Type

/-! # Streams

  A stream is a cursor with a current item. It starts before the first item, goes on
  by `moveNext` and is finished after the last one or after an error. Questions
  about the sequence are answered from a fresh copy of the cursor, so they leave
  the stream where it is.
-/

namespace XPathData

/-! ### States -/

/-- Where a stream is. -/
inductive StreamState where
  | notStarted
  | iterating
  | finished
  deriving DecidableEq, Repr

/-- A sequence with a current item. -/
structure Stream where
  /-- The reader. -/
  cursor : Cursor
  /-- Where the stream is. -/
  state : StreamState
  /-- The item that was read last. -/
  current? : Option Item
  /-- The number of items read so far. -/
  position : Nat

namespace Stream

/-! ### Making streams -/

/-- A stream at the start of what a cursor reads. -/
def ofCursor (c : Cursor) : Stream := ⟨c, .notStarted, none, 0⟩

/-- The stream of the given items. -/
def ofList (items : List Item) : Stream := ofCursor (.ofList items)

/-- The stream without items. -/
def empty : Stream := ofList []

/-- The stream of one item. -/
def single (x : Item) : Stream := ofList [x]

/-- The stream of the integers between two bounds. -/
def ofRange (low high : Signed64) : Stream := ofCursor (.ofRange low high)

/-- The stream of what a producer gives. -/
def ofProducer (name : String) (entries : List Entry) : Stream :=
  ofCursor (.ofProducer name entries)

/-- A stream of the same sequence, at its start. -/
def restart (t : Stream) : Stream := ofCursor t.cursor.restart

/-- One sequence after another. -/
def concat (t u : Stream) : Stream := ofCursor (t.cursor.concat u.cursor)

/-- A function applied to each item when it is read. -/
def map (t : Stream) (f : Item → Entry) : Stream := ofCursor (.map f t.cursor.restart)

/-- A stream whose copies share one reading; a sequence that is there already is
    only restarted. -/
def buffered (t : Stream) : Fetch Stream := fun s =>
  if t.cursor.isMaterialized then (.ok t.restart, s)
  else
    let (s, c) := s.buffer t.cursor
    (.ok (ofCursor c), s)

/-! ### Going on -/

/-- Goes to the next item and tells whether there is one; an error finishes the stream. -/
def moveNext (t : Stream) (s : Store) : Except Error Bool × Stream × Store :=
  if t.state = .finished then (.ok false, t, s)
  else
    match t.cursor.next s with
    | (some (.ok x), c, s) => (.ok true, ⟨c, .iterating, some x, t.position + 1⟩, s)
    -- The position stays at the last item that was there.
    | (some (.error e), c, s) => (.error e, ⟨c, .finished, none, t.position⟩, s)
    | (none, c, s) => (.ok false, ⟨c, .finished, none, t.position⟩, s)

/-- The reader that a stream is given up for. It goes on behind what the stream has read. -/
def rest (t : Stream) : Cursor := t.cursor

/-- The current item, or an error where there is none. -/
def current (t : Stream) : Except Error Item :=
  match t.current? with
  | some x => .ok x
  | none =>
    .error (.ofCode .unidentified
      (if t.state = .notStarted then "no current item: move_next has not been called"
       else "no current item: sequence exhausted"))

/-! ### Questions -/

/-- The number of items: those read, if the stream is finished, and otherwise what the
    cursor knows or a fresh copy finds. -/
def count (t : Stream) : Fetch Nat := fun s =>
  if t.state = .finished then (.ok t.position, s)
  else
    match t.cursor.exactLength? s with
    | some n => (.ok n, s)
    | none => t.cursor.restart.length s

/-- The first item, if there is one. -/
def first (t : Stream) : Fetch (Option Item) := do return (← t.cursor.restart.fetch).1

/-- There is exactly one item. -/
def isSingle (t : Stream) : Fetch Bool := fun s =>
  match t.cursor.exactLength? s with
  | some n => (.ok (n == 1), s)
  | none =>
    (do
      match ← t.cursor.restart.fetch with
      | (none, _) => return false
      | (some _, c) => return (← c.fetch).1.isNone : Fetch Bool) s

/-- There is no item. -/
def isEmpty (t : Stream) : Fetch Bool := fun s =>
  match t.cursor.exactLength? s with
  | some n => (.ok (n == 0), s)
  | none => (do return (← t.first).isNone : Fetch Bool) s

/-- All items; the first error fails. -/
def toList (t : Stream) : Fetch (List Item) := t.cursor.restart.toList

/-- The number of items that the buffer of the stream holds. -/
def bufferedLength? (t : Stream) (s : Store) : Option Nat := t.cursor.bufferedLength? s

/-- The bounds of a stream of consecutive integers. -/
def rangeBounds? (t : Stream) : Option (Signed64 × Signed64) := t.cursor.rangeBounds?

end Stream

end XPathData
