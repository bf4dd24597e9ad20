import XPathData.Library.Position

/-! # Positional edits

  A position cuts a sequence into the items in front of it and the rest. What is inserted
  stands between the two pieces, and leaving out the item behind the first piece, as often as
  something was inserted there, leaves the two pieces.

  A position is a value of one of the types of integers. None of them goes beyond what counts
  items, so no position is replaced by another one on its way to an index.

  * `Library.insertionPoint_eq` — where a position cuts a sequence
  * `Library.removeAt_behind`, `Library.removeAt_eq_self` — what is left out at a position
  * `Library.removeTimes_inserted` — leaving out what was inserted
  * `Library.positional_edits_invert` — both functions for every position
-/

namespace XPathData

theorem IntegerKind.high_le_greatest (k : IntegerKind) : k.high ≤ Library.Size.greatest.val := by
  cases k <;> decide

/-- What a value of an integer type holds is no more than the greatest number of items. -/
theorem IntegerKind.val_le_greatest {k : IntegerKind} (p : k.Word) :
    p.val ≤ Library.Size.greatest.val :=
  Int.le_trans p.le_high k.high_le_greatest

namespace Library

open Argument

variable {α : Type} {ctx : CallContext} {kind : IntegerKind}

/-! ### Cutting and leaving out -/

theorem ofInt?_of_le {n : Int} (h0 : 0 ≤ n) (h : n ≤ Size.greatest.val) :
    (Bounded.ofInt? n : Option Size) = some ⟨n, h0, h⟩ :=
  Bounded.ofInt?_eq_some_iff.2 rfl

/-- A position cuts a sequence in front of the item that it counts, or at the nearer end. -/
theorem insertionPoint_eq {p : Int} (hp : p ≤ Size.greatest.val) (n : Nat) :
    (insertionPoint n p : Int) = min (max p 1 - 1) n := by
  have hle : max p 1 - 1 ≤ Size.greatest.val := by
    have hone : (1 : Int) ≤ Size.greatest.val := by decide
    omega
  unfold insertionPoint
  rw [ofInt?_of_le (by omega) hle, Option.getD_some]
  simp only
  omega

/-- The place behind an insertion point is a position of some type. -/
theorem exists_position_behind {p : Int} (hp : p ≤ Size.greatest.val) (n : Nat) :
    ∃ (kind : IntegerKind) (q : kind.Word), q.val = insertionPoint n p + 1 := by
  have hpoint := insertionPoint_eq hp n
  have hone : (1 : Int) ≤ Size.greatest.val := by decide
  have hlow : IntegerKind.unsignedLong.low = 0 := rfl
  have hhigh : IntegerKind.unsignedLong.high = Size.greatest.val := rfl
  exact ⟨.unsignedLong, ⟨insertionPoint n p + 1, by omega, by omega⟩, rfl⟩

/-- A position that counts an item cuts a list in front of it and behind it. -/
theorem exists_split {p : Int} {l : List α} (hp : 1 ≤ p ∧ p ≤ l.length) :
    ∃ u x v, l = u ++ x :: v ∧ p = u.length + 1 := by
  obtain ⟨n, hn⟩ : ∃ n : Nat, p = n + 1 := ⟨(p - 1).toNat, by omega⟩
  have hlt : n < l.length := by omega
  refine ⟨l.take n, l[n], l.drop (n + 1), ?_, ?_⟩
  · rw [← List.drop_eq_getElem_cons hlt, List.take_append_drop]
  · rw [List.length_take_of_le (Nat.le_of_lt hlt), hn]

theorem eraseIdx_behind (u : List α) (x : α) (v : List α) :
    (u ++ x :: v).eraseIdx u.length = u ++ v := by
  rw [List.eraseIdx_append_of_length_le (Nat.le_refl _), Nat.sub_self, List.eraseIdx_cons_zero]

/-- The item behind a piece is left out at the position after the piece. -/
theorem removeAt_behind {p : Int} (hp : p ≤ Size.greatest.val) (u : List α) (x : α) (v : List α)
    (hu : p = u.length + 1) : removeAt (u ++ x :: v) p = u ++ v := by
  have hlast : p ≤ (u ++ x :: v).length := by
    rw [List.length_append, List.length_cons]
    omega
  have hindex : p.toNat - 1 = u.length := by omega
  unfold removeAt
  rw [ofInt?_of_le (by omega) hp]
  simp only
  rw [if_pos ⟨by omega, hlast⟩, hindex, eraseIdx_behind]

/-- A position that counts no item leaves everything. -/
theorem removeAt_eq_self {p : Int} (l : List α) (hp : ¬(1 ≤ p ∧ p ≤ l.length)) :
    removeAt l p = l := by
  unfold removeAt
  split
  · next n hn =>
    rw [Bounded.ofInt?_eq_some_iff.1 hn, if_neg hp]
  · rfl

/-! ### The functions -/

theorem insertBefore_eq (T I : List Item) (p : kind.Word) :
    insertBefore T (result (.integer kind p)) I ctx = .ok (insertAt T p.val I) := rfl

theorem remove_eq (T : List Item) (p : kind.Word) :
    remove T (result (.integer kind p)) ctx = .ok (removeAt T p.val) := rfl

/-- Leaves out the item at a position a number of times. -/
def removeTimes (position : List Item) : Nat → List Item → Call (List Item)
  | 0, l => return l
  | n + 1, l => do removeTimes position n (← remove l position)

/-- Leaving out as many items as were inserted between two pieces leaves the pieces. -/
theorem removeTimes_inserted (u I v : List Item) (q : kind.Word) (hq : q.val = u.length + 1) :
    removeTimes (result (.integer kind q)) I.length (u ++ I ++ v) ctx = .ok (u ++ v) := by
  -- The inserted items are left out from the first one on, always at the same position.
  induction I with
  | nil =>
    rw [List.append_nil]
    rfl
  | cons x I ih =>
    have hstep : remove (u ++ x :: I ++ v) (result (.integer kind q)) ctx = .ok (u ++ I ++ v) := by
      rw [remove_eq, List.append_assoc, List.cons_append,
        removeAt_behind (IntegerKind.val_le_greatest q) u x (I ++ v) hq, List.append_assoc]
    calc removeTimes (result (.integer kind q)) (x :: I).length (u ++ x :: I ++ v) ctx
        = (remove (u ++ x :: I ++ v) (result (.integer kind q)) ctx).bind fun l =>
            removeTimes (result (.integer kind q)) I.length l ctx := rfl
      _ = removeTimes (result (.integer kind q)) I.length (u ++ I ++ v) ctx := by
          rw [hstep]
          rfl
      _ = .ok (u ++ v) := ih

/-- Inserting before a position puts the items between the first `k` items of a sequence and
    the rest, where `k` is one less than the position, brought into the sequence. Leaving out
    the item at position `k + 1` as often as there are inserted items gives back the sequence,
    and some type of integers has that position. Leaving out the item at a position drops the
    item that it counts, and nothing if it counts none. -/
theorem positional_edits_invert (ctx : CallContext) (T I : List Item) (p : kind.Word) :
    (∃ k : Nat, (k : Int) = min (max p.val 1 - 1) T.length ∧
      insertBefore T (result (.integer kind p)) I ctx = .ok (T.take k ++ I ++ T.drop k) ∧
      (∃ (kind' : IntegerKind) (q : kind'.Word), q.val = k + 1) ∧
      ∀ (kind' : IntegerKind) (q : kind'.Word), q.val = k + 1 →
        removeTimes (result (.integer kind' q)) I.length (T.take k ++ I ++ T.drop k) ctx =
          .ok T) ∧
    (1 ≤ p.val ∧ p.val ≤ T.length → ∃ u x v, T = u ++ x :: v ∧ p.val = u.length + 1 ∧
      remove T (result (.integer kind p)) ctx = .ok (u ++ v) ∧ (u ++ v).length + 1 = T.length) ∧
    (¬(1 ≤ p.val ∧ p.val ≤ T.length) → remove T (result (.integer kind p)) ctx = .ok T) := by
  have hp : p.val ≤ Size.greatest.val := IntegerKind.val_le_greatest p
  have hk := insertionPoint_eq hp T.length
  refine ⟨⟨insertionPoint T.length p.val, hk, insertBefore_eq T I p,
    exists_position_behind hp T.length, ?_⟩, ?_, ?_⟩
  · intro kind' q hq
    have hlength : (T.take (insertionPoint T.length p.val)).length =
        insertionPoint T.length p.val := List.length_take_of_le (by omega)
    rw [removeTimes_inserted _ I _ q (by rw [hlength, hq]), List.take_append_drop]
  · intro hin
    obtain ⟨u, x, v, rfl, hu⟩ := exists_split hin
    refine ⟨u, x, v, rfl, hu, ?_, ?_⟩
    · rw [remove_eq, removeAt_behind hp u x v hu]
    · rw [List.length_append, List.length_append, List.length_cons, Nat.add_assoc]
  · intro hout
    rw [remove_eq, removeAt_eq_self T hout]

/-- The greatest position, the least one and one within two items. -/
theorem positional_edits_invert_at_extremes :
    let call : CallContext := ⟨.empty .words, .standard⟩
    let x : Item := .atomic (.str "x")
    let y : Item := .atomic (.str "y")
    let z : Item := .atomic (.str "z")
    let last : IntegerKind.unsignedLong.Word := ⟨0xFFFFFFFFFFFFFFFF, by decide, by decide⟩
    let least : IntegerKind.long.Word := ⟨-0x8000000000000000, by decide, by decide⟩
    let second : IntegerKind.byte.Word := ⟨2, by decide, by decide⟩
    insertBefore [x, y] (result (.integer .unsignedLong last)) [z] call = .ok [x, y, z] ∧
      insertBefore [x, y] (result (.integer .long least)) [z] call = .ok [z, x, y] ∧
      remove [x, y] (result (.integer .long least)) call = .ok [x, y] ∧
      remove [x, y] (result (.integer .byte second)) call = .ok [x] := by
  intro call x y z last least second
  obtain ⟨⟨k, hk, hlast, -⟩, -, -⟩ := positional_edits_invert call [x, y] [z] last
  obtain ⟨⟨m, hm, hleast, -⟩, -, hkept⟩ := positional_edits_invert call [x, y] [z] least
  obtain ⟨-, hdropped, -⟩ := positional_edits_invert call [x, y] [] second
  obtain rfl : k = 2 := Int.ofNat.inj hk
  obtain rfl : m = 0 := Int.ofNat.inj hm
  obtain ⟨u, t, v, hsplit, hu, hremove, -⟩ := hdropped (by decide)
  have hlength : u.length = 1 := (Nat.succ.inj (Int.ofNat.inj hu)).symm
  obtain ⟨w, rfl⟩ := List.length_eq_one_iff.1 hlength
  cases hsplit
  exact ⟨hlast, hleast, hkept (by decide), hremove⟩

end Library

end XPathData
