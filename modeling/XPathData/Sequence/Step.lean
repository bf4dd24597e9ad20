import XPathData.Sequence.Cursor

/-! # Reading a cursor

  One step of a cursor yields an entry, or makes progress without one, or finds
  the end. Steps go down to the sources of buffers, which lie one level below
  their readers. Reading repeats steps until one of them yields an entry or finds
  the end, and `stepsLeft` bounds how many it can take.
-/

namespace XPathData

/-- What a step brings. -/
inductive Step where
  /-- The next entry. -/
  | yield (e : Entry)
  /-- No entry yet. -/
  | skip
  /-- No entry any more. -/
  | done

/-- A step, the cursor behind it and the store behind it. -/
abbrev Stepped := Step × Cursor × Store

namespace SetOp

/-- The keyword of an operation. -/
def symbol : SetOp → String
  | union => "union"
  | intersect => "intersect"
  | except => "except"

/-- A node of the left operand belongs to the result. -/
def wants (op : SetOp) (other : List NodeId) (n : NodeId) : Bool :=
  match op with
  | union => true
  | intersect => other.contains n
  | except => !other.contains n

end SetOp

/-- An operation on nodes has met a value. -/
def notNode (operation : String) (a : Atomic) : Error :=
  .ofCode .typeError (operation ++ " requires node sequences, found " ++ a.type.text)

namespace Cursor

/-! ### One step -/

/-- A step of a reader of a buffer, the step of a source given. -/
def stepBuffered (pull : Cursor → Store → Stepped) (i pos : Nat) (s : Store) : Stepped :=
  match s.buffers[i]? with
  | none => (.done, buffered i pos, s)
  | some b =>
    match b.items[pos]? with
    -- Another reader has read this entry already.
    | some x => (.yield (.ok x), buffered i (pos + 1), s)
    | none =>
      -- Only a reader that was given the failure stands behind the last item.
      if b.items.size < pos then (.done, buffered i pos, s)
      else match b.error, b.source with
        | some e, _ => (.yield (.error e), buffered i (pos + 1), s)
        | none, none => (.done, buffered i pos, s)
        | none, some c =>
          -- The reader is the first one to come this far: the source goes on by one step.
          match pull c s with
          | (.yield (.ok x), c', s') =>
            (.yield (.ok x), buffered i (pos + 1),
              s'.setBuffer i { b with items := b.items.push x, source := some c' })
          | (.yield (.error e), _, s') =>
            (.yield (.error e), buffered i (pos + 1),
              s'.setBuffer i { b with source := none, error := some e })
          | (.skip, c', s') => (.skip, buffered i pos, s'.setBuffer i { b with source := some c' })
          | (.done, _, s') => (.done, buffered i pos, s'.setBuffer i { b with source := none })

/-- What a set operation makes of an entry of the left operand. -/
def choose (op : SetOp) (other seen : List NodeId) : Entry → Step × SelectPhase
  | .ok (.node n) =>
    if op.wants other n && !seen.contains n then
      (.yield (.ok (.node n)), .choosing other (n :: seen))
    else (.skip, .choosing other seen)
  | .ok (.atomic a) => (.yield (.error (notNode op.symbol a)), .draining)
  | .error e => (.yield (.error e), .draining)

/-- What a set operation makes of an entry of the right operand. -/
def gather (op : SetOp) (found : List NodeId) : Entry → Step × SelectPhase
  | .ok (.node n) => (.skip, .gathering (n :: found))
  | .ok (.atomic a) => (.yield (.error (notNode op.symbol a)), .closed)
  | .error e => (.yield (.error e), .closed)

/-- A step of a cursor, the step of the source of a buffer given. -/
def stepWith (pull : Cursor → Store → Stepped) : Cursor → Store → Stepped
  | listed items (x :: rest), s => (.yield (.ok x), listed items rest, s)
  | listed items [], s => (.done, listed items [], s)
  | range low high (some n), s =>
    (.yield (.ok (.atomic (.int n))),
      range low high (if n.val < high.val then Bounded.ofInt? (n.val + 1) else none), s)
  | range low high none, s => (.done, range low high none, s)
  | producer name entries rest, s =>
    let s := (if rest.isNone then s.noteRun name else s).notePull name
    match rest.getD entries with
    | [] => (.done, producer name entries (some []), s)
    | e :: l => (.yield e, producer name entries (some l), s.noteEntry name)
  | buffered i pos, s => stepBuffered pull i pos s
  | append l r false, s =>
    match l.stepWith pull s with
    -- The end of the left sequence is not an end: the right one goes on in the same step.
    | (.done, l', s) =>
      let (out, r', s) := r.stepWith pull s
      (out, append l' r' true, s)
    | (out, l', s) => (out, append l' r false, s)
  | append l r true, s =>
    let (out, r', s) := r.stepWith pull s
    (out, append l r' true, s)
  | map f input, s =>
    match input.stepWith pull s with
    | (.yield e, input, s) => (.yield (e.bind f), map f input, s)
    | (out, input, s) => (out, map f input, s)
  | expand nodes input (a :: pending), s =>
    (.yield (.ok (.atomic a)), expand nodes input pending, s)
  | expand nodes input [], s =>
    match input.stepWith pull s with
    | (.yield (.ok (.node n)), input, s) =>
      match nodes.values n with
      | .ok l => (.skip, expand nodes input l, s)
      | .error e => (.yield (.error e), expand nodes input [], s)
    | (out, input, s) => (out, expand nodes input [], s)
  | select op l r (.gathering found), s =>
    match r.stepWith pull s with
    | (.yield e, r, s) =>
      let (out, phase) := gather op found e
      (out, select op l r phase, s)
    | (.skip, r, s) => (.skip, select op l r (.gathering found), s)
    | (.done, r, s) => (.skip, select op l r (.choosing found []), s)
  | select op l r (.choosing other seen), s =>
    match l.stepWith pull s with
    | (.yield e, l, s) =>
      let (out, phase) := choose op other seen e
      (out, select op l r phase, s)
    | (out, l, s) => (out, select op l r (.choosing other seen), s)
  | select op l r .draining, s =>
    -- The operand is still read to its end, but all it yields is left out.
    match l.stepWith pull s with
    | (.done, l, s) => (.done, select op l r .draining, s)
    | (_, l, s) => (.skip, select op l r .draining, s)
  | select op l r .closed, s => (.done, select op l r .closed, s)

@[simp] theorem stepWith_buffered (pull : Cursor → Store → Stepped) (i pos : Nat) (s : Store) :
    (buffered i pos).stepWith pull s = stepBuffered pull i pos s := by
  rw [stepWith]

/-- A step of a cursor with buffers nested up to a depth. -/
def stepAt : Nat → Cursor → Store → Stepped
  | 0 => stepWith fun c s => (.done, c, s)
  | depth + 1 => stepWith (stepAt depth)

/-- A step of a cursor. -/
def step (c : Cursor) (s : Store) : Stepped := stepAt s.buffers.size c s

/-! ### The number of steps -/

/-- The steps that a cursor can still take, those of the sources of buffers given. -/
def stepsLeftWith (inner : Cursor → Nat) (s : Store) : Cursor → Nat
  | listed _ rest => rest.length
  | range _ high next => (next.map fun n => (high.val - n.val + 1).toNat).getD 0
  | producer _ entries rest => (rest.getD entries).length
  | buffered i pos =>
    match s.buffers[i]? with
    | none => 0
    | some b =>
      if b.items.size < pos then 0
      else (b.items.size - pos) + ((b.source.map inner).getD 0) + (if b.error.isSome then 1 else 0)
  | append l r onRight =>
    (if onRight then 0 else l.stepsLeftWith inner s) + r.stepsLeftWith inner s
  | map _ input => input.stepsLeftWith inner s
  | expand nodes input pending =>
    pending.length + (nodes.width + 1) * input.stepsLeftWith inner s
  | select _ l r phase =>
    match phase with
    | .gathering _ => r.stepsLeftWith inner s + l.stepsLeftWith inner s + 1
    | .choosing .. | .draining => l.stepsLeftWith inner s
    | .closed => 0

/-- The steps that a cursor can still take with buffers nested up to a depth. -/
def stepsLeftAt (s : Store) : Nat → Cursor → Nat
  | 0 => stepsLeftWith (fun _ => 0) s
  | depth + 1 => stepsLeftWith (stepsLeftAt s depth) s

/-- The steps that a cursor can still take before it finds its end. -/
def stepsLeft (c : Cursor) (s : Store) : Nat := stepsLeftAt s s.buffers.size c

/-! ### Reading -/

/-- Takes steps until one of them yields an entry or finds the end. -/
def nextWithin : Nat → Cursor → Store → Option Entry × Cursor × Store
  | 0, c, s => (none, c, s)
  | steps + 1, c, s =>
    match c.step s with
    | (.yield e, c, s) => (some e, c, s)
    | (.done, c, s) => (none, c, s)
    | (.skip, c, s) => nextWithin steps c s

/-- The next entry, if there is one. -/
def next (c : Cursor) (s : Store) : Option Entry × Cursor × Store :=
  nextWithin (c.stepsLeft s + 1) c s

end Cursor

end XPathData
