import Mathlib.Data.List.FinRange
import XPathData.Sequence.Atomize

/-! # What a cursor has left

  The entries that a cursor has left follow from its structure, once it is known what
  each buffer holds altogether. The content of a buffer is a list that is fixed when the
  buffer is made and of which more and more is read. So `remaining` takes the contents
  and not the store: a step of one cursor cannot change what another one has left.

  * `Cursor.remaining` — the entries that a cursor has left
  * `Cursor.Sound` — a cursor stands where readers of the buffers can stand
  * `Store.Holds` — the buffers hold their contents, as far as they were read
-/

namespace XPathData

/-! ### Lists of entries -/

/-- The entries up to the first error, which is the last one then. -/
def upToError : List Entry → List Entry
  | [] => []
  | .ok x :: l => .ok x :: upToError l
  | .error e :: _ => [.error e]

/-- The integers from `low` to `high`, in order. -/
def Signed64.upTo (low high : Signed64) : List Signed64 :=
  (List.finRange (high.val - low.val + 1).toNat).map fun k =>
    ⟨low.val + (k.val : Int), by have := low.low_le; omega,
      by have := high.le_high; have := k.isLt; omega⟩

/-- What an entry is expanded to: a node to its values, or to the error it has instead. -/
def NodeValues.expansion (nodes : NodeValues) : Entry → List Entry
  | .ok (.node n) =>
    match nodes.values n with
    | .ok l => l.map fun a => .ok (.atomic a)
    | .error e => [.error e]
  | e => [e]

namespace SetOp

/-- The nodes of a right operand; a value among them fails, and so does an error. -/
def gathered (op : SetOp) (found : List NodeId) : List Entry → Except Error (List NodeId)
  | [] => .ok found
  | .ok (.node n) :: l => op.gathered (n :: found) l
  | .ok (.atomic a) :: _ => .error (notNode op.symbol a)
  | .error e :: _ => .error e

/-- The nodes of a left operand that belong to the result, without those `seen` before; a
    value among them fails and ends the result, and so does an error. -/
def chosen (op : SetOp) (other seen : List NodeId) : List Entry → List Entry
  | [] => []
  | .ok (.node n) :: l =>
    if op.wants other n && !seen.contains n then
      .ok (.node n) :: op.chosen other (n :: seen) l
    else op.chosen other seen l
  | .ok (.atomic a) :: _ => [.error (notNode op.symbol a)]
  | .error e :: _ => [.error e]

/-- What a set operation has left in a phase, when its operands have `left` and `right`. -/
def outcome (op : SetOp) (left right : List Entry) : SelectPhase → List Entry
  | .gathering found =>
    match op.gathered found right with
    | .ok other => op.chosen other [] left
    | .error e => [.error e]
  | .choosing other seen => op.chosen other seen left
  | .draining | .closed => []

end SetOp

namespace Signed64

theorem map_val_upTo (low high : Signed64) :
    (upTo low high).map (·.val) =
      (List.range (high.val - low.val + 1).toNat).map fun k : Nat => low.val + (k : Int) := by
  rw [upTo, List.map_map, ← List.map_coe_finRange_eq_range, List.map_map]
  rfl

theorem ext_map_val {l l' : List Signed64} (h : l.map (·.val) = l'.map (·.val)) : l = l' :=
  List.map_injective_iff.2 (fun _ _ => Bounded.ext_val) h

/-- The next integer is there as long as the upper bound was not reached. -/
theorem exists_succ {low high : Signed64} (h : low.val < high.val) :
    ∃ next : Signed64, next.val = low.val + 1 :=
  ⟨⟨low.val + 1, by have := low.low_le; omega, by have := high.le_high; omega⟩, rfl⟩

theorem upTo_eq_cons {low high next : Signed64} (h : low.val < high.val)
    (hnext : next.val = low.val + 1) : upTo low high = low :: upTo next high := by
  obtain ⟨k, hk⟩ : ∃ k : Nat, (high.val - low.val + 1).toNat = k + 1 :=
    ⟨(high.val - low.val).toNat, by omega⟩
  have hk' : (high.val - next.val + 1).toNat = k := by omega
  apply ext_map_val
  rw [List.map_cons, map_val_upTo, map_val_upTo, hk, hk', List.range_succ_eq_map, List.map_cons,
    List.map_map, hnext]
  simp only [Int.natCast_zero, Int.add_zero, List.cons.injEq, true_and]
  apply List.map_congr_left
  intro j _
  simp only [Function.comp, Nat.succ_eq_add_one, Int.natCast_add, Int.natCast_one]
  omega

theorem upTo_self (n : Signed64) : upTo n n = [n] := by
  apply ext_map_val
  rw [map_val_upTo, show (n.val - n.val + 1).toNat = 1 by omega]
  simp

theorem upTo_eq_nil {low high : Signed64} (h : high.val < low.val) : upTo low high = [] := by
  apply ext_map_val
  rw [map_val_upTo, show (high.val - low.val + 1).toNat = 0 by omega]
  rfl

end Signed64

namespace Cursor

/-! ### What is left -/

/-- The entries that a cursor has left, the whole contents of the buffers given. -/
def remaining (content : Nat → List Entry) : Cursor → List Entry
  | listed _ rest => rest.map .ok
  | range _ high next =>
    ((next.map (Signed64.upTo · high)).getD []).map fun n => .ok (.atomic (.int n))
  | producer _ entries rest => rest.getD entries
  | buffered b pos => (content b).drop pos
  | append l r onRight => (if onRight then [] else l.remaining content) ++ r.remaining content
  | map f input => (input.remaining content).map fun e => e.bind f
  | expand nodes input pending =>
    pending.map (fun a => .ok (.atomic a)) ++ (input.remaining content).flatMap nodes.expansion
  | select op l r phase => op.outcome (l.remaining content) (r.remaining content) phase

/-! ### Where a cursor stands -/

/-- A cursor that reads only buffers below `n` and has not gone past what they have read: only
    a reader that found the end of a buffer, or its failure, can stand behind its items. -/
def Sound (s : Store) (n : Nat) : Cursor → Prop
  | listed .. | producer .. => True
  | range _ high next => ∀ i, next = some i → i.val ≤ high.val
  | buffered b pos =>
    b < n ∧ ∃ buf, s.buffers[b]? = some buf ∧ (pos ≤ buf.items.size ∨ buf.source = none)
  | append l r _ => l.Sound s n ∧ r.Sound s n
  | map _ input => input.Sound s n
  | expand _ input _ => input.Sound s n
  | select _ l r _ => l.Sound s n ∧ r.Sound s n

end Cursor

/-! ### Buffers -/

/-- A buffer in a later store has read as much as before or more, and is the same if its
    reading had ended. -/
def Buffer.Grows (b b' : Buffer) : Prop :=
  b.items.size ≤ b'.items.size ∧ (b.source = none → b' = b)

theorem Buffer.Grows.refl (b : Buffer) : b.Grows b := ⟨Nat.le_refl _, fun _ => rfl⟩

theorem Buffer.Grows.trans {b b' b'' : Buffer} (h : b.Grows b') (h' : b'.Grows b'') :
    b.Grows b'' := by
  refine ⟨Nat.le_trans h.1 h'.1, fun hb => ?_⟩
  have hb' := h.2 hb
  subst hb'
  exact h'.2 hb

/-- A reader that stands rightly on a buffer does so later too. -/
theorem Buffer.Grows.stands {b b' : Buffer} {pos : Nat} (h : b.Grows b')
    (hpos : pos ≤ b.items.size ∨ b.source = none) : pos ≤ b'.items.size ∨ b'.source = none := by
  rcases hpos with hpos | hsource
  · exact .inl (Nat.le_trans hpos h.1)
  · exact .inr (h.2 hsource ▸ hsource)

namespace Store

/-- All buffers of a store are in a later one, and have read as much or more. -/
def Grows (s s' : Store) : Prop :=
  ∀ (i : Nat) (b : Buffer), s.buffers[i]? = some b → ∃ b', s'.buffers[i]? = some b' ∧ b.Grows b'

theorem Grows.trans {s s' s'' : Store} (h : s.Grows s') (h' : s'.Grows s'') : s.Grows s'' := by
  intro i b hb
  obtain ⟨b', hb', hbb'⟩ := h i b hb
  obtain ⟨b'', hb'', hbb''⟩ := h' i b' hb'
  exact ⟨b'', hb'', hbb'.trans hbb''⟩

theorem Grows.of_buffers_eq {s s' : Store} (h : s'.buffers = s.buffers) : s.Grows s' :=
  fun _ b hb => ⟨b, h ▸ hb, .refl b⟩

end Store

/-- A buffer holds its content: the items read so far, and then what its source has left or the
    failure that ended the reading. The source reads only buffers before this one. -/
def Buffer.Holds (content : Nat → List Entry) (s : Store) (i : Nat) (b : Buffer) : Prop :=
  match b.source with
  | some c =>
    b.error = none ∧ c.Sound s i ∧
      content i = b.items.toList.map .ok ++ upToError (c.remaining content)
  | none => content i = b.items.toList.map .ok ++ b.error.toList.map .error

namespace Buffer.Holds

variable {content : Nat → List Entry} {s s' : Store} {i : Nat} {b : Buffer}

theorem live (h : b.Holds content s i) {c : Cursor} (hc : b.source = some c) :
    b.error = none ∧ c.Sound s i ∧
      content i = b.items.toList.map .ok ++ upToError (c.remaining content) := by
  simpa only [Buffer.Holds, hc] using h

theorem ended (h : b.Holds content s i) (hc : b.source = none) :
    content i = b.items.toList.map .ok ++ b.error.toList.map .error := by
  simpa only [Buffer.Holds, hc] using h

theorem source_sound (h : b.Holds content s i) {c : Cursor} (hc : b.source = some c) :
    c.Sound s i := (h.live hc).2.1

/-- The items read so far stand at the beginning of the content. -/
theorem begins_with_items (h : b.Holds content s i) : b.items.toList.map .ok <+: content i := by
  cases hsrc : b.source with
  | some c => exact ⟨_, (h.live hsrc).2.2.symm⟩
  | none => exact ⟨_, (h.ended hsrc).symm⟩

end Buffer.Holds

/-- All buffers of a store hold their contents. -/
def Store.Holds (content : Nat → List Entry) (s : Store) : Prop :=
  ∀ (i : Nat) (b : Buffer), s.buffers[i]? = some b → b.Holds content s i

namespace Cursor

/-! ### Fresh copies, later stores, other contents -/

variable {s s' : Store} {n m : Nat} {c : Cursor} {content content' : Nat → List Entry}

theorem Sound.mono (h : c.Sound s n) (hnm : n ≤ m) : c.Sound s m := by
  induction c with
  | listed | producer => trivial
  | range => exact h
  | buffered => exact ⟨Nat.lt_of_lt_of_le h.1 hnm, h.2⟩
  | append l r onRight ihl ihr => exact ⟨ihl h.1, ihr h.2⟩
  | map f input ih => exact ih h
  | expand nodes input pending ih => exact ih h
  | select op l r phase ihl ihr => exact ⟨ihl h.1, ihr h.2⟩

theorem Sound.later (h : c.Sound s n) (hgrows : s.Grows s') : c.Sound s' n := by
  induction c with
  | listed | producer => trivial
  | range => exact h
  | buffered b pos =>
    obtain ⟨hb, buf, hbuf, hpos⟩ := h
    obtain ⟨buf', hbuf', hgrows⟩ := hgrows b buf hbuf
    exact ⟨hb, buf', hbuf', hgrows.stands hpos⟩
  | append l r onRight ihl ihr => exact ⟨ihl h.1, ihr h.2⟩
  | map f input ih => exact ih h
  | expand nodes input pending ih => exact ih h
  | select op l r phase ihl ihr => exact ⟨ihl h.1, ihr h.2⟩

theorem Sound.ofRange (low high : Signed64) : (ofRange low high).Sound s n := by
  intro i hi
  split at hi
  · cases hi
    assumption
  · cases hi

theorem Sound.restart (h : c.Sound s n) : c.restart.Sound s n := by
  induction c with
  | listed | producer => trivial
  | range low high => exact Sound.ofRange low high
  | buffered b pos =>
    obtain ⟨hb, buf, hbuf, -⟩ := h
    exact ⟨hb, buf, hbuf, .inl (Nat.zero_le _)⟩
  | append l r onRight ihl ihr => exact ⟨ihl h.1, ihr h.2⟩
  | map f input ih => exact ih h
  | expand nodes input pending ih => exact ih h
  | select op l r phase ihl ihr => exact ⟨ihl h.1, ihr h.2⟩

/-- What is left depends only on the contents of buffers that are read. -/
theorem remaining_congr (h : c.Sound s n) (hcontent : ∀ i < n, content i = content' i) :
    c.remaining content = c.remaining content' := by
  induction c with
  | listed | producer | range => rfl
  | buffered b pos => simp only [remaining, hcontent b h.1]
  | append l r onRight ihl ihr => simp only [remaining, ihl h.1, ihr h.2]
  | map f input ih => simp only [remaining, ih h]
  | expand nodes input pending ih => simp only [remaining, ih h]
  | select op l r phase ihl ihr => simp only [remaining, ihl h.1, ihr h.2]

end Cursor

theorem Buffer.Holds.later {content : Nat → List Entry} {s s' : Store} {i : Nat} {b : Buffer}
    (h : b.Holds content s i) (hgrows : s.Grows s') : b.Holds content s' i := by
  unfold Buffer.Holds at h ⊢
  split
  · next c hc =>
    simp only [hc] at h
    exact ⟨h.1, h.2.1.later hgrows, h.2.2⟩
  · next hc => simpa only [hc] using h

end XPathData
