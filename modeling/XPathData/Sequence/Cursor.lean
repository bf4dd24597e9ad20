import XPathData.Sequence.Item

/-! # Cursors

  A cursor reads the entries of a sequence one after the other. It can be restarted:
  a fresh copy reads the same sequence from its beginning. A buffer keeps what was
  read from a cursor, so that all its readers share one reading. Buffers and the
  counts of what producers were asked for live in a store.
-/

namespace XPathData

/-! ### Counts -/

/-- A number of items, which takes 64 bits. -/
def countLimit : Nat := 0x10000000000000000

/-- A count that is too large is cut down to the greatest one. -/
def capCount (n : Nat) : Nat := min n (countLimit - 1)

/-- The sum of two counts, which wraps around. -/
def addCounts (m n : Nat) : Nat := (m + n) % countLimit

/-! ### Cursors -/

/-- The set operations on nodes. -/
inductive SetOp where
  | union
  | intersect
  | except
  deriving DecidableEq, Repr

/-- How far an unordered set operation has come. -/
inductive SelectPhase where
  /-- The nodes of the right operand are being read. -/
  | gathering (found : List NodeId)
  /-- The left operand is being read; the nodes in `seen` were already given out. -/
  | choosing (other seen : List NodeId)
  /-- The left operand failed, and what remains of it is read and left out. -/
  | draining
  /-- The right operand failed, and nothing more is read. -/
  | closed
  deriving DecidableEq, Repr

/-- What nodes are replaced by when a sequence is expanded: the values of each node. -/
structure NodeValues where
  /-- The values of a node, which may fail to have any. -/
  values : NodeId → Except Error (List Atomic)
  /-- No node has more values. -/
  width : Nat
  length_le : ∀ n l, values n = .ok l → l.length ≤ width

/-- A reader of a sequence. -/
inductive Cursor where
  /-- Items that are there; `rest` are those still to be read. -/
  | listed (items rest : List Item)
  /-- Consecutive integers. -/
  | range (low high : Signed64) (next : Option Signed64)
  /-- The entries of a producer, which is started by the first reading; `rest` are the
      entries that the run has left. -/
  | producer (name : String) (entries : List Entry) (rest : Option (List Entry))
  /-- A reader of a buffer. -/
  | buffered (buffer pos : Nat)
  /-- One sequence after another. -/
  | append (left right : Cursor) (onRight : Bool)
  /-- A function applied to each item. -/
  | map (f : Item → Entry) (input : Cursor)
  /-- The atomic values of each item; `pending` are those of the last node still to be read. -/
  | expand (nodes : NodeValues) (input : Cursor) (pending : List Atomic)
  /-- A set operation whose result comes in the order of the operands. -/
  | select (op : SetOp) (left right : Cursor) (phase : SelectPhase)

namespace Cursor

/-- A reader of the given items. -/
def ofList (items : List Item) : Cursor := listed items items

/-- A reader of the integers from `low` to `high`. -/
def ofRange (low high : Signed64) : Cursor :=
  range low high (if low.val ≤ high.val then some low else none)

/-- A reader of what a producer gives. -/
def ofProducer (name : String) (entries : List Entry) : Cursor := producer name entries none

/-- The phase that a set operation starts with: a union needs no look at the right side. -/
def startPhase : SetOp → SelectPhase
  | .union => .choosing [] []
  | .intersect | .except => .gathering []

/-- A fresh reader of the same sequence. -/
def restart : Cursor → Cursor
  | listed items _ => ofList items
  | range low high _ => ofRange low high
  | producer name entries _ => ofProducer name entries
  | buffered b _ => buffered b 0
  | append l r _ => append l.restart r.restart false
  | map f input => map f input.restart
  | expand nodes input _ => expand nodes input.restart []
  | select op l r _ => select op l.restart r.restart (startPhase op)

@[simp] theorem restart_restart (c : Cursor) : c.restart.restart = c.restart := by
  induction c <;> simp_all [restart, ofList, ofRange, ofProducer]

/-- A fresh reader of one sequence and then of another one. -/
def concat (a b : Cursor) : Cursor := append a.restart b.restart false

/-! ### What is known without reading -/

/-- The number of integers from `low` to `high`. -/
def rangeLength (low high : Signed64) : Nat := capCount (high.val - low.val + 1).toNat

/-- The bounds of a sequence of consecutive integers. -/
def rangeBounds? : Cursor → Option (Signed64 × Signed64)
  | range low high _ => some (low, high)
  | _ => none

/-- A fresh reader finds all entries there, so that nothing is computed again. -/
def isMaterialized : Cursor → Bool
  | listed .. | range .. | buffered .. => true
  | append l r _ => l.isMaterialized && r.isMaterialized
  | _ => false

end Cursor

/-! ### The store -/

/-- What was read from a cursor so far. -/
structure Buffer where
  /-- The items, in the order of reading. -/
  items : Array Item
  /-- The cursor, until it has come to its end or has failed. -/
  source : Option Cursor
  /-- The failure. -/
  error : Option Error

/-- What a producer was asked for. -/
structure Tally where
  /-- How often it was started. -/
  runs : Nat
  /-- How often a run was asked for an entry, the question that finds its end included. -/
  pulls : Nat
  /-- How many entries were taken from all its runs. -/
  produced : Nat
  deriving DecidableEq, Repr

/-- Everything that cursors share. -/
structure Store where
  /-- The buffers by number. A buffer reads only from those before it. -/
  buffers : Array Buffer
  /-- The producers that were asked, by name. -/
  tallies : List (String × Tally)

namespace Store

/-- Nothing shared yet. -/
def empty : Store := ⟨#[], []⟩

/-- What the producers of a name were asked for. -/
def tally (s : Store) (name : String) : Tally := (s.tallies.lookup name).getD ⟨0, 0, 0⟩

/-- Replaces the tally of a name. -/
def setTally (s : Store) (name : String) (t : Tally) : Store :=
  { s with tallies := (name, t) :: s.tallies.filter fun p => p.1 != name }

/-- Notes that a producer was started. -/
def noteRun (s : Store) (name : String) : Store :=
  s.setTally name { s.tally name with runs := (s.tally name).runs + 1 }

/-- Notes that a producer was asked for an entry. -/
def notePull (s : Store) (name : String) : Store :=
  s.setTally name { s.tally name with pulls := (s.tally name).pulls + 1 }

/-- Notes that an entry was taken from a producer. -/
def noteEntry (s : Store) (name : String) : Store :=
  s.setTally name { s.tally name with produced := (s.tally name).produced + 1 }

/-- Changes a buffer. -/
def setBuffer (s : Store) (i : Nat) (b : Buffer) : Store :=
  { s with buffers := s.buffers.setIfInBounds i b }

/-- Makes a buffer over a fresh copy of a cursor; the result reads it. -/
def buffer (s : Store) (c : Cursor) : Store × Cursor :=
  ({ s with buffers := s.buffers.push ⟨#[], some c.restart, none⟩ },
   .buffered s.buffers.size 0)

end Store

namespace Cursor

/-! ### What is known with the store -/

/-- The number of all entries, where it is known without reading. -/
def exactLength? (s : Store) : Cursor → Option Nat
  | listed items _ => some items.length
  | range low high _ => some (rangeLength low high)
  | buffered b _ =>
    match s.buffers[b]? with
    -- Read to the end without a failure; a failure would be an entry that is not counted.
    | some ⟨items, none, none⟩ => some items.size
    | _ => none
  | append l r _ =>
    match l.exactLength? s, r.exactLength? s with
    | some m, some n => some (addCounts m n)
    | _, _ => none
  | map _ input => input.exactLength? s
  | producer .. | expand .. | select .. => none

/-- The number of items that the buffer of a reader holds. -/
def bufferedLength? (s : Store) : Cursor → Option Nat
  | buffered b _ => (s.buffers[b]?).map fun b => b.items.size
  | _ => none

/-- What the run of a producer says of itself: it has all of its entries there. -/
def ownHint : Cursor → Store → Nat × Option Nat
  | producer _ _ (some rest), _ => (rest.length, some rest.length)
  | _, _ => (0, none)

/-- At least and at most as many entries remain, the hints of the sources of buffers given by
    `inner` and those of running producers by `own`. -/
def sizeHintWith (own : Cursor → Store → Nat × Option Nat) (inner : Cursor → Nat × Option Nat)
    (s : Store) : Cursor → Nat × Option Nat
  | listed _ rest => (rest.length, some rest.length)
  | range _ high next =>
    let n := (next.map fun n => rangeLength n high).getD 0
    (n, some n)
  | producer name entries rest =>
    match rest with
    | none => (0, none)
    | some l => own (producer name entries (some l)) s
  | buffered b pos =>
    match s.buffers[b]? with
    | none => (0, some 0)
    | some buf =>
      let cached := buf.items.size - pos
      match buf.source with
      | none => (cached, some cached)
      | some c => ((addCounts cached (inner c).1), (inner c).2.map (addCounts cached))
  | map _ input => input.sizeHintWith own inner s
  -- A set operation is a producer as well.
  | select op l r phase => own (select op l r phase) s
  | append .. | expand .. => (0, none)

/-- The size hint with buffers nested up to a depth. -/
def sizeHintAt (own : Cursor → Store → Nat × Option Nat) (s : Store) :
    Nat → Cursor → Nat × Option Nat
  | 0 => sizeHintWith own (fun _ => (0, none)) s
  | depth + 1 => sizeHintWith own (sizeHintAt own s depth) s

/-- At least and at most as many entries remain, where running producers say it by `own`. -/
def sizeHintBy (own : Cursor → Store → Nat × Option Nat) (c : Cursor) (s : Store) :
    Nat × Option Nat :=
  sizeHintAt own s s.buffers.size c

/-- At least and at most as many entries remain. -/
def sizeHint (c : Cursor) (s : Store) : Nat × Option Nat := c.sizeHintBy ownHint s

end Cursor

end XPathData
