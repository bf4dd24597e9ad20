import XPathData.Sequence.Step

/-! # Reading whole sequences

  Readings change the store and may fail; what was read before a failure stays
  read. Most of them go through a sequence until they know enough.
-/

namespace XPathData

/-- A computation that reads sequences and may fail with an error. -/
abbrev Fetch := ExceptT Error (StateM Store)

/-- A computation that reads sequences and may fail in either way. -/
abbrev Evaluation := ExceptT Failure (StateM Store)

instance : MonadLift (Except Error) Fetch where
  monadLift r := fun s => (r, s)

instance : MonadLift (Except Failure) Evaluation where
  monadLift r := fun s => (r, s)

instance : MonadLift Fetch Evaluation where
  monadLift f := fun s =>
    match f s with
    | (.ok a, s) => (.ok a, s)
    | (.error e, s) => (.error (.error e), s)

namespace Cursor

/-- The next entry: none at the end, and an error in place of an item fails. -/
def fetch (c : Cursor) : Fetch (Option Item × Cursor) := fun s =>
  match c.next s with
  | (some (.ok x), c, s) => (.ok (some x, c), s)
  | (some (.error e), _, s) => (.error e, s)
  | (none, c, s) => (.ok (none, c), s)

/-- What the next part of a reading is to be. -/
inductive Progress (σ α : Type) where
  /-- Read on. -/
  | more (state : σ)
  /-- Enough is known. -/
  | stop (result : α)

/-- Reads entries until `f` stops or none are left, at most `limit` of them. -/
def readWithin {σ α : Type} (f : σ → Entry → Progress σ α) (finish : σ → α) :
    Nat → σ → Cursor → Store → α × Store
  | 0, state, _, s => (finish state, s)
  | limit + 1, state, c, s =>
    match c.next s with
    | (none, _, s) => (finish state, s)
    | (some e, c, s) =>
      match f state e with
      | .more state => readWithin f finish limit state c s
      | .stop a => (a, s)

/-- Reads entries until `f` stops or none are left. -/
def read {σ α : Type} (f : σ → Entry → Progress σ α) (finish : σ → α) (start : σ) (c : Cursor)
    (s : Store) : α × Store :=
  readWithin f finish (c.stepsLeft s + 1) start c s

/-- Goes through the items; the first error fails, and so does `f` where it stops with one. -/
def readItems {σ α ε : Type} (raise : Error → ε) (f : σ → Item → Progress σ (Except ε α))
    (finish : σ → α) (start : σ) (c : Cursor) : ExceptT ε (StateM Store) α := fun s =>
  c.read
    (fun state e =>
      match e with
      | .ok x => f state x
      | .error e => .stop (.error (raise e)))
    (fun state => .ok (finish state)) start s

/-- The items that are left; the first error fails. -/
def toList (c : Cursor) : Fetch (List Item) :=
  c.readItems id (fun l x => .more (x :: l)) List.reverse []

/-- The number of items that are left; the first error fails. -/
def length (c : Cursor) : Fetch Nat := c.readItems id (fun n _ => .more (n + 1)) id 0

/-- The nodes that are left; a value among them fails, and so does an error. -/
def nodes (operation : String) (c : Cursor) : Fetch (List NodeId) :=
  c.readItems id
    (fun l x =>
      match x with
      | .node n => .more (n :: l)
      | .atomic a => .stop (.error (notNode operation a)))
    List.reverse []

/-- Reads at most `limit` items and whatever ends them: the end, an error, or the entry
    that is one too many. -/
def readUpTo : Nat → Cursor → Store → List Item × Option Entry × Store
  | 0, c, s =>
    match c.next s with
    | (e, _, s) => ([], e, s)
  | limit + 1, c, s =>
    match c.next s with
    | (some (.ok x), c, s) =>
      let (l, e, s) := c.readUpTo limit s
      (x :: l, e, s)
    | (e, _, s) => ([], e, s)

end Cursor

end XPathData
