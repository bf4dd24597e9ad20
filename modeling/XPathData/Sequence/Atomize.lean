import XPathData.Atomic.Comparison
import XPathData.Sequence.Stream

/-! # Atomic values of sequences

  Atomization replaces each node of a sequence by its atomic values. The truth
  value of a sequence looks at its first items, and a general comparison asks for
  a pair of atomic values, one of each operand, that compares.
-/

namespace XPathData

/-! ### The values of nodes -/

namespace Forest

/-- The greatest number of atomic values of a node. -/
def width (F : Forest) : Nat :=
  (List.range (F.nodes.size + 1)).foldl (fun w i => max w (F.typedValue i).length) 0

theorem le_foldl_max {α : Type} (f : α → Nat) (l : List α) (w : Nat) :
    w ≤ l.foldl (fun w i => max w (f i)) w ∧
      ∀ i ∈ l, f i ≤ l.foldl (fun w i => max w (f i)) w := by
  induction l generalizing w with
  | nil => simp
  | cons j l ih =>
    obtain ⟨hw, hl⟩ := ih (max w (f j))
    simp only [List.foldl_cons, List.mem_cons, forall_eq_or_imp]
    exact ⟨by omega, by omega, hl⟩

/-- Numbers that stand for no node all have the value of a blank one. -/
theorem typedValue_of_size_le {F : Forest} {i : NodeId} (h : F.nodes.size ≤ i) :
    F.typedValue i = F.typedValue F.nodes.size := by
  have hi : F.node i = .blank := node_of_size_le h
  have hs : F.node F.nodes.size = .blank := node_of_size_le (Nat.le_refl _)
  simp [typedValue, stringValue, hi, hs, Node.blank, NodeContent.blank]

theorem length_typedValue_le (F : Forest) (i : NodeId) : (F.typedValue i).length ≤ F.width := by
  have hmax := (le_foldl_max (fun i => (F.typedValue i).length)
    (List.range (F.nodes.size + 1)) 0).2
  by_cases hi : i < F.nodes.size
  · exact hmax i (List.mem_range.2 (Nat.lt_succ_of_lt hi))
  · rw [typedValue_of_size_le (Nat.le_of_not_lt hi)]
    exact hmax F.nodes.size (by simp)

theorem length_eq_of_mapM {α β ε : Type} {f : α → Except ε β} {l : List α} {r : List β}
    (h : l.mapM f = .ok r) : r.length = l.length := by
  induction l generalizing r with
  | nil => cases h; rfl
  | cons a l ih =>
    rw [List.mapM_cons] at h
    cases ha : f a with
    | error e => simp [ha, bind, Except.bind] at h
    | ok b =>
      cases hl : l.mapM f with
      | error e => simp [ha, hl, bind, Except.bind] at h
      | ok r' =>
        simp [ha, hl, bind, Except.bind, pure, Except.pure] at h
        simp [← h, ih hl]

theorem length_atomize_le {F : Forest} {i : NodeId} {l : List Atomic}
    (h : F.atomize i = .ok l) : l.length ≤ F.width := by
  unfold atomize at h
  split at h
  · cases h
    exact F.length_typedValue_le i
  · rw [length_eq_of_mapM h]
    exact F.length_typedValue_le i

/-- The atomic values of the nodes of a forest. -/
def nodeValues (F : Forest) : NodeValues where
  values := F.atomize
  width := F.width
  length_le _ _ := length_atomize_le

end Forest

/-! ### Atomization -/

namespace Cursor

/-- A fresh reader of the atomic values of what a cursor reads. -/
def atomize (F : Forest) (c : Cursor) : Cursor := expand F.nodeValues c.restart []

/-- The values among the items that are left; the first error fails. -/
def values (c : Cursor) : Fetch (List Atomic) := do return (← c.toList).filterMap Item.atomic?

end Cursor

namespace Stream

/-- The stream of the atomic values of a sequence, found when they are read. -/
def atomize (F : Forest) (t : Stream) : Stream := ofCursor (t.cursor.atomize F)

end Stream

/-- The atomic values of some items. -/
def atomizeAll (F : Forest) (l : List Item) : Except Error (List Atomic) := do
  return (← l.mapM (Item.atomize F)).flatten

/-- The only atomic value of some items, which may also have none. -/
def singleValue? (F : Forest) (l : List Item) : Except Error (Option Atomic) :=
  go none l
where
  /-- The value so far and those of an item make at most one. -/
  join (found : Option Atomic) (values : List Atomic) : Except Error (Option Atomic) :=
    match found, values with
    | found, [] => .ok found
    | none, [a] => .ok (some a)
    | _, _ => .error (.cardinality .typeError "expected at most one atomic value")
  /-- Goes through the items. -/
  go (found : Option Atomic) : List Item → Except Error (Option Atomic)
    | [] => .ok found
    | x :: l => do go (← join found (← x.atomize F)) l

/-! ### Truth values -/

/-- The truth value of an atomic value: texts that are not empty, numbers other than zero
    and NaN, and the true boolean. -/
def Atomic.truth (a : Atomic) : Except Error Bool :=
  match a with
  | .boolean b => .ok b
  | .double x => .ok (!x.isZero && !x.isNaN)
  | .float x => .ok (!x.isZero && !x.isNaN)
  | .decimal d => .ok !d.isZero
  | .integer _ n => .ok (n.val != 0)
  | .untyped s | .string _ s | .anyURI s => .ok !s.isEmpty
  | _ =>
    .error (.ofCode .invalidArgument
      ("effective boolean value is not defined for " ++ a.type.text))

/-- The truth value of a sequence: false if it is empty, true if it starts with a node, and
    else that of its only value. -/
def Stream.truth (t : Stream) : Fetch Bool := do
  match ← t.cursor.restart.fetch with
  | (none, _) => return false
  | (some (.node _), _) => return true
  | (some (.atomic a), c) =>
    match ← c.fetch with
    | (none, _) => liftM a.truth
    | (some _, _) =>
      throw (.ofCode .invalidArgument
        "effective boolean value is not defined for a sequence of two or more atomic values")

/-! ### General comparison -/

/-- The first value of a list that compares with a given one decides. -/
def anyCompares (op : ComparisonOp) (a : Atomic) (ctx : ValueContext) :
    List Atomic → Outcome Bool
  | [] => .ok false
  | b :: l => do if ← Atomic.generalPair op a b ctx then return true else anyCompares op a ctx l

/-- Some value of the left sequence compares with some value of the right one, which is read
    first and as a whole. -/
def generalCompare (op : ComparisonOp) (F : Forest) (left right : Stream) (ctx : ValueContext) :
    Evaluation Bool := do
  let values ← liftM (right.cursor.atomize F).values
  -- The left sequence is not read at all beside an empty right one.
  if values.isEmpty then return false
  (left.cursor.atomize F).readItems Failure.error
    (fun _ x =>
      match x with
      | .node _ => .more ()
      | .atomic a =>
        match anyCompares op a ctx values with
        | .ok false => .more ()
        | r => .stop r)
    (fun _ => false) ()

end XPathData
