import XPathData.Proofs.Sequence.Session
import XPathData.Sequence.Mapping

/-! # What streams answer

  A stream counts its items in one of three ways: it has seen all of them, its cursor knows how
  many they are, or a fresh copy reads them. Over items without errors the three agree, and so
  do the other questions, wherever the stream and its copies are. An error among the entries is
  seen only by reading: a stream that has finished, and one whose cursor knows a number, count
  the items as if there were none.

  * `Stream.Stands.count_eq` — counting, wherever a stream is
  * `Session.answers_of_items` — every stream of items answers for the whole of them
  * `Cursor.unmapped` — a cursor without the functions that are applied to its items
  * `Session.count_at_error` — when counting shows an error
-/

namespace XPathData

variable {content : Nat → List Entry} {s : Store} {t : Stream} {c : Course} {items : List Item}

/-! ### Items without errors -/

theorem collect_map_ok (items : List Item) : collect (items.map .ok) = .ok items :=
  collect_eq_ok.2 rfl

theorem headItem_map_ok (items : List Item) : headItem (items.map .ok) = .ok items.head? := by
  cases items <;> rfl

theorem isOneItem_map_ok (items : List Item) :
    isOneItem (items.map .ok) = .ok (items.length == 1) := by
  match items with
  | [] | [_] | _ :: _ :: _ => rfl

theorem Course.finished_iff : c.state = .finished ↔ c.items.length < c.moves := by
  constructor
  · intro h
    by_contra hle
    exact c.state_of_le (Nat.le_of_not_lt hle) h
  · exact c.state_of_lt

theorem Course.position_of_finished (h : c.state = .finished) : c.position = c.items.length :=
  Nat.min_eq_right (Nat.le_of_lt (Course.finished_iff.1 h))

/-- Counting a sequence: what was seen, what is known, or what is read. -/
theorem Stream.Stands.count_eq (hs : s.Holds content) (h : t.Stands content s c) :
    (t.count s).1 =
      if c.state = .finished then .ok c.items.length
      else match t.cursor.exactLength? s with
        | some n => .ok n
        | none => (collect c.shape.entries).map List.length := by
  by_cases hstate : c.state = .finished
  · rw [if_pos hstate, Lists.count_of_finished (h.state.trans hstate), h.position,
      Course.position_of_finished hstate]
  · rw [if_neg hstate]
    have hstate' : t.state ≠ .finished := h.state ▸ hstate
    cases hexact : t.cursor.exactLength? s with
    | some n => rw [Lists.count_of_exactLength? hstate' hexact]
    | none =>
      obtain ⟨s', hcount, -⟩ := (h.lists hs).count_of_none hstate' hexact
      rw [hcount]

/-- What a stream answers whose sequence is the given items. -/
structure Stream.AnswersFor (items : List Item) (t : Stream) (s : Store) : Prop where
  count : (t.count s).1 = .ok items.length
  isSingle : (t.isSingle s).1 = .ok (items.length == 1)
  isEmpty : (t.isEmpty s).1 = .ok (items.length == 0)
  first : (t.first s).1 = .ok items.head?
  toList : (t.toList s).1 = .ok items
  /-- A copy goes through all items from the first one on, and then finds no more. -/
  replay : t.restart.Drains s items none

/-- A number known without reading is that of the items. -/
theorem Stream.Lists.length_of_exactLength? (h : t.Lists content s (items.map .ok))
    (hlt : items.length < countLimit) {n : Nat} (hexact : t.cursor.exactLength? s = some n) :
    items.length = n := by
  have hlength := Cursor.length_of_exactLength? h.holds
    (by rw [h.whole, List.length_map]; exact hlt) hexact
  rwa [h.whole, List.length_map] at hlength

theorem Stream.Stands.answersFor (hs : s.Holds content) (h : t.Stands content s c)
    (hitems : c.shape.entries = items.map .ok) (hlt : items.length < countLimit) :
    t.AnswersFor items s := by
  have hlists : t.Lists content s (items.map .ok) := hitems ▸ h.lists hs
  have hcourse : c.items = items := by rw [Course.items, hitems, leadingItems_map_ok]
  constructor
  case count =>
    rw [h.count_eq hs, hcourse, hitems, collect_map_ok]
    split
    · rfl
    · split
      · next n hexact => rw [hlists.length_of_exactLength? hlt hexact]
      · rfl
  case isSingle =>
    cases hexact : t.cursor.exactLength? s with
    | some n => simp only [Stream.isSingle, hexact, hlists.length_of_exactLength? hlt hexact]
    | none =>
      obtain ⟨s', hsingle, -⟩ := hlists.isSingle_of_none hexact
      rw [hsingle, isOneItem_map_ok]
  case isEmpty =>
    obtain ⟨s', hempty, -⟩ := hlists.isEmpty hlt
    rw [hempty]
    cases items <;> rfl
  case first =>
    obtain ⟨s', hfirst, -⟩ := hlists.first
    rw [hfirst, headItem_map_ok]
  case toList =>
    obtain ⟨s', hlist, -⟩ := hlists.toList
    rw [hlist, collect_map_ok]
  case replay =>
    have hdrains := hlists.restart.drains t.fresh_restart
    rwa [leadingItems_map_ok, firstError?_map_ok] at hdrains

/-- However streams are made, copied, moved and asked: a stream of items that 64 bits can count
    answers for all of them wherever it is, it is where its own moves have led it, and no
    question moves any stream. -/
theorem Session.answers_of_items {uses : List Use} {k : Nat}
    (h : (Itinerary.run uses).courses[k]? = some c)
    (hitems : c.shape.entries = items.map .ok) (hlt : items.length < countLimit) :
    ∃ t, (Session.run uses).streams[k]? = some t ∧
      t.AnswersFor items (Session.run uses).pool.store ∧
      t.state = c.state ∧ t.position = c.position ∧ t.current? = c.current? ∧
      ∀ (q : Question) (j : Nat),
        (Session.run (uses ++ [.ask q j])).streams = (Session.run uses).streams := by
  obtain ⟨content, t, ht, hstands, hholds⟩ := Session.exists_stands h
  refine ⟨t, ht, hstands.answersFor hholds hitems hlt, hstands.state, hstands.position,
    hstands.current?, ?_⟩
  intro q j
  rw [Session.run, List.foldl_append]
  rfl

/-- Two streams over one buffer, of which one was moved once and the other one to the end. -/
theorem Session.answers_of_items_buffered :
    let x : Item := .atomic (.string .string "x")
    let uses : List Use := [.handles (.produce "p" [.ok x, .ok x]), .handles (.buffer 0), .start 1,
      .move 0, .clone 0, .move 1, .ask .count 0, .move 1, .move 1]
    ∃ t, (Session.run uses).streams[1]? = some t ∧
      t.AnswersFor [x, x] (Session.run uses).pool.store ∧
      t.state = .finished ∧ t.position = 2 ∧ t.current? = none ∧
      ∀ (q : Question) (j : Nat),
        (Session.run (uses ++ [.ask q j])).streams = (Session.run uses).streams := by
  intro x uses
  exact Session.answers_of_items (c := ⟨.buffered (.produced [.ok x, .ok x]), 3⟩) rfl rfl
    (by decide)

/-! ### Errors -/

namespace Cursor

/-- The cursor without the functions that are applied to items when they are read. -/
def unmapped : Cursor → Cursor
  | map _ input => input.unmapped
  | append l r onRight => append l.unmapped r.unmapped onRight
  | c => c

variable {n : Nat} {cursor : Cursor}

/-- Functions do not change what is known about the number of items. -/
theorem exactLength?_unmapped (s : Store) (cursor : Cursor) :
    cursor.unmapped.exactLength? s = cursor.exactLength? s := by
  induction cursor with
  | append l r onRight ihl ihr => simp only [unmapped, exactLength?, ihl, ihr]
  | map f input ih => simpa only [unmapped, exactLength?] using ih
  | listed | range | producer | buffered | expand | select => rfl

theorem Sound.unmapped {cursor : Cursor} (h : cursor.Sound s n) : cursor.unmapped.Sound s n := by
  induction cursor with
  | append l r onRight ihl ihr => exact ⟨ihl h.1, ihr h.2⟩
  | map f input ih => exact ih h
  | listed | range | producer | buffered | expand | select => exact h

/-- Where a number is known without reading, all items are there: only a function that is
    applied to them can fail. -/
theorem exists_items_of_exactLength? (hs : s.Holds content)
    (h : cursor.exactLength? s = some n) :
    ∃ items : List Item, cursor.unmapped.restart.remaining content = items.map .ok := by
  induction cursor generalizing n with
  | listed items rest => exact ⟨items, rfl⟩
  | range low high next => exact ⟨_, (List.map_map ..).symm⟩
  | producer name entries rest => simp [exactLength?] at h
  | buffered b pos =>
    simp only [exactLength?] at h
    split at h
    · next items hb =>
      have hall := (hs b _ hb).ended rfl
      exact ⟨items.toList, by simpa [unmapped, restart, remaining] using hall⟩
    · cases h
  | append l r onRight ihl ihr =>
    simp only [exactLength?] at h
    split at h
    · next m k hm hk =>
      obtain ⟨left, hleft⟩ := ihl hm
      obtain ⟨right, hright⟩ := ihr hk
      refine ⟨left ++ right, ?_⟩
      simp only [unmapped, restart, remaining, hleft, hright, List.map_append]
      rfl
    · cases h
  | map f input ih => exact ih h
  | expand nodes input pending => simp [exactLength?] at h
  | select op l r phase => simp [exactLength?] at h

end Cursor

theorem collect_of_error {entries : List Entry} {e : Error} (h : firstError? entries = some e) :
    collect entries = .error e := by
  rw [collect, h]

/-- What is known about the number of items is what reading them without functions finds. -/
theorem Stream.Lists.unmapped {entries : List Entry} (h : t.Lists content s entries) {n : Nat}
    (hexact : t.cursor.exactLength? s = some n) :
    ∃ items, ((ofCursor t.cursor.unmapped).toList s).1 = .ok items ∧
      (items.length < countLimit → items.length = n) := by
  obtain ⟨items, hitems⟩ := Cursor.exists_items_of_exactLength? h.holds hexact
  have hlists : (ofCursor t.cursor.unmapped).Lists content s (items.map .ok) :=
    ⟨h.holds, h.sound.unmapped, hitems⟩
  obtain ⟨s', hlist, -⟩ := hlists.toList
  refine ⟨items, by rw [hlist, collect_map_ok], fun hlt => ?_⟩
  exact hlists.length_of_exactLength? hlt ((Cursor.exactLength?_unmapped s _).trans hexact)

/-- However streams are made, copied, moved and asked: where the entries of a stream have an
    error, reading all of them fails with the first one, and counting does so exactly where it
    has to read. A stream that has finished counts the items that it has seen. Where a number is
    known, it is that of the items before the functions are applied that fail. -/
theorem Session.count_at_error {uses : List Use} {k : Nat} {e : Error}
    (h : (Itinerary.run uses).courses[k]? = some c)
    (he : firstError? c.shape.entries = some e) :
    ∃ t, (Session.run uses).streams[k]? = some t ∧
      (t.toList (Session.run uses).pool.store).1 = .error e ∧
      ((t.count (Session.run uses).pool.store).1 = .error e ↔
        c.moves ≤ c.items.length ∧
          t.cursor.exactLength? (Session.run uses).pool.store = none) ∧
      (c.items.length < c.moves →
        (t.count (Session.run uses).pool.store).1 = .ok c.items.length) ∧
      ∀ n, t.cursor.exactLength? (Session.run uses).pool.store = some n →
        (c.moves ≤ c.items.length → (t.count (Session.run uses).pool.store).1 = .ok n) ∧
        ∃ items, ((Stream.ofCursor t.cursor.unmapped).toList
            (Session.run uses).pool.store).1 = .ok items ∧
          (items.length < countLimit → items.length = n) := by
  obtain ⟨content, t, ht, hstands, hholds⟩ := Session.exists_stands h
  have hlists := hstands.lists hholds
  have hcount := hstands.count_eq hholds
  simp only [Course.finished_iff, collect_of_error he] at hcount
  refine ⟨t, ht, ?_, ?_, ?_, ?_⟩
  · obtain ⟨s', hlist, -⟩ := hlists.toList
    rw [hlist, collect_of_error he]
  · -- Neither the items that were seen nor a known number can be the error.
    rw [hcount]
    by_cases hmoves : c.moves ≤ c.items.length
    · rw [if_neg (Nat.not_lt.2 hmoves)]
      cases t.cursor.exactLength? (Session.run uses).pool.store with
      | none => simp [hmoves, Except.map]
      | some n => simp
    · rw [if_pos (Nat.lt_of_not_le hmoves)]
      simp [hmoves]
  · intro hmoves
    rw [hcount, if_pos hmoves]
  · intro n hexact
    refine ⟨?_, hlists.unmapped hexact⟩
    intro hmoves
    rw [hcount, if_neg (Nat.not_lt.2 hmoves), hexact]

/-- A producer that fails behind its first item: a stream at that item finds the error when it
    counts. -/
theorem Session.count_at_error_read :
    let e : Error := .ofCode .invalidArgument "x"
    let uses : List Use :=
      [.handles (.produce "p" [.ok (.atomic (.boolean true)), .error e]), .start 0, .move 0]
    ∃ t, (Session.run uses).streams[0]? = some t ∧
      (t.toList (Session.run uses).pool.store).1 = .error e ∧
      (t.count (Session.run uses).pool.store).1 = .error e := by
  intro e uses
  have hcourse : (Itinerary.run uses).courses[0]? =
      some ⟨.produced [.ok (.atomic (.boolean true)), .error e], 1⟩ := rfl
  obtain ⟨t, ht, hlist, hcount, -⟩ := Session.count_at_error hcourse rfl
  refine ⟨t, ht, hlist, hcount.2 ⟨Nat.le_refl 1, ?_⟩⟩
  cases ht
  rfl

/-- A string that a function refuses is counted as an item, and so is what a producer gave
    before it failed, once the failure was seen; reading the items fails both times. -/
theorem Session.count_hides_error :
    let e : Error := .ofCode .invalidArgument "x"
    let mapped := Session.run [.handles (.items [.atomic (.string .string "x")]),
      .handles (.map Item.refuseString 0), .start 1]
    let failed := Session.run [.handles (.produce "p" [.error e]), .start 0, .move 0]
    (((mapped.stream 0).toList mapped.pool.store).1 = .error e ∧
      ((mapped.stream 0).count mapped.pool.store).1 = .ok 1) ∧
    (((failed.stream 0).toList failed.pool.store).1 = .error e ∧
      ((failed.stream 0).count failed.pool.store).1 = .ok 0) := by
  intro e mapped failed
  exact ⟨⟨rfl, rfl⟩, ⟨rfl, rfl⟩⟩

end XPathData
