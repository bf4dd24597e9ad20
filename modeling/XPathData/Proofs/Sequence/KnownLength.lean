import XPathData.Proofs.Sequence.Counting

/-! # Numbers of entries that are known without reading

  The number of entries of a sequence may be known before any of them is read: items and ranges
  have it from the start, a buffer from the moment at which some reader has found its end. What
  is known once stays known, whatever is done with other handles, and it is the number of
  entries that a fresh copy gives before it answers with none.

  * `Cursor.exactLength?_later` — a known number stays known in later stores
  * `Pool.Later` — what actions leave as it is
  * `Replay.foldl_getElem?` — how far a handle is read by actions
  * `Replay.run_clone_getElem?` — how far a copy is read behind its making
  * `Pool.exactLength?_truthful` — known numbers are right and stay
-/

namespace XPathData

variable {content : Nat → List Entry} {s s' : Store} {n : Nat}

namespace Cursor

/-! ### What is known of a cursor -/

/-- It does not matter how far the cursor was read. -/
@[simp] theorem exactLength?_restart (s : Store) (c : Cursor) :
    c.restart.exactLength? s = c.exactLength? s := by
  induction c with
  | append l r onRight ihl ihr => simp only [restart, exactLength?, ihl, ihr]
  | map f input ih => simp only [restart, exactLength?, ih]
  | listed | range | producer | buffered | expand | select => rfl

theorem exactLength?_of_restart_eq {c c' : Cursor} (h : c'.restart = c.restart) :
    c'.exactLength? s = c.exactLength? s := by
  rw [← exactLength?_restart s c', h, exactLength?_restart]

/-- What is known once stays known: a buffer that was read to its end does not change. -/
theorem exactLength?_later {c : Cursor} (hgrows : s.Grows s') (h : c.exactLength? s = some n) :
    c.exactLength? s' = some n := by
  induction c generalizing n with
  | listed | range => exact h
  | producer | expand | select => cases h
  | buffered b pos =>
    simp only [exactLength?] at h ⊢
    split at h
    · next items hb =>
      obtain ⟨b', hb', -, hsame⟩ := hgrows b _ hb
      rw [hb', hsame rfl]
      exact h
    · cases h
  | append l r onRight ihl ihr =>
    simp only [exactLength?] at h ⊢
    split at h
    · next hl hr =>
      rw [ihl hl, ihr hr]
      exact h
    · cases h
  | map f input ih => exact ih h

end Cursor

/-! ### What actions leave as it is -/

namespace Pool

/-- A pool that some actions lead to: the handles are still there with their sequences, and
    nothing that was read is lost. -/
structure Later (p p' : Pool) : Prop where
  grows : p.store.Grows p'.store
  kept : ∀ (i : Nat) (h : Handle), p.handles[i]? = some h →
    ∃ h', p'.handles[i]? = some h' ∧ h'.cursor.restart = h.cursor.restart

namespace Later

variable {p p' p'' : Pool}

theorem refl (p : Pool) : p.Later p := ⟨.of_buffers_eq rfl, fun _ h hh => ⟨h, hh, rfl⟩⟩

theorem trans (h : p.Later p') (h' : p'.Later p'') : p.Later p'' where
  grows := h.grows.trans h'.grows
  kept i g hg := by
    obtain ⟨g', hg', hrestart⟩ := h.kept i g hg
    obtain ⟨g'', hg'', hrestart'⟩ := h'.kept i g' hg'
    exact ⟨g'', hg'', hrestart'.trans hrestart⟩

/-- Making a handle puts it behind all others. -/
theorem make (p : Pool) (c : Cursor) : p.Later (p.make c) where
  grows := .of_buffers_eq rfl
  kept i h hh := by
    refine ⟨h, ?_, rfl⟩
    rw [Pool.make, List.getElem?_append_left (List.getElem?_eq_some_iff.1 hh).1]
    exact hh

theorem makeBuffered (p : Pool) (c : Cursor) : p.Later (p.makeBuffered c) := by
  have hstore : p.Later { p with store := (p.store.buffer c).1 } :=
    ⟨p.store.buffer_grows c, fun _ h hh => ⟨h, hh, rfl⟩⟩
  exact hstore.trans (make _ _)

end Later

variable {p : Pool} {rs : List Replay}

/-- Reading a handle changes only where its cursor stands. -/
theorem Follows.next_later (h : p.Follows content rs) (i : Nat) : p.Later (p.next i) := by
  refine ⟨(h.extends_next i).grows, fun j g hg => ?_⟩
  unfold Pool.next
  cases hi : p.handles[i]? with
  | none => exact ⟨g, hg, rfl⟩
  | some f =>
    have hlt := (List.getElem?_eq_some_iff.1 hi).1
    by_cases hj : i = j
    · subst hj
      rw [hi] at hg
      cases hg
      have hsound := (h.cursor i).1
      simp only [Pool.cursor, hi, Option.map_some, Option.getD_some] at hsound
      exact ⟨_, List.getElem?_set_self hlt, (Cursor.next_reads h.holds hsound).restart⟩
    · exact ⟨g, by rw [List.getElem?_set_ne hj, hg], rfl⟩

theorem Follows.perform_later (h : p.Follows content rs) (a : Action) : p.Later (p.perform a) := by
  cases a with
  | buffer i => exact .makeBuffered p _
  | next i => exact h.next_later i
  | items | range | produce | concat | map | treat | atomize | select | clone => exact .make p _

theorem Follows.foldl_later (h : p.Follows content rs) (actions : List Action) :
    p.Later (actions.foldl Pool.perform p) := by
  induction actions generalizing p rs content with
  | nil => exact .refl p
  | cons a actions ih =>
    obtain ⟨_, hperform, -⟩ := h.perform a
    exact (h.perform_later a).trans (ih hperform)

end Pool

/-! ### How far a handle is read -/

/-- The action asks the handle for its next entry. -/
def Action.asks (k : Nat) : Action → Bool
  | .next i => i == k
  | _ => false

namespace Replay

variable {rs : List Replay} {k : Nat} {r : Replay}

theorem make_getElem? (hk : rs[k]? = some r) (shape : Shape) : (make rs shape)[k]? = some r := by
  rw [make, List.getElem?_append_left (List.getElem?_eq_some_iff.1 hk).1]
  exact hk

theorem perform_getElem? (hk : rs[k]? = some r) (a : Action) :
    (perform rs a)[k]? = some { r with reads := r.reads + (a.asks k).toNat } := by
  cases a with
  | next i =>
    simp only [perform, List.getElem?_modify, hk, Action.asks]
    by_cases hi : i = k
    · simp [hi]
    · simp [hi, beq_false_of_ne hi]
  | items | range | produce | concat | map | treat | atomize | select | buffer | clone =>
    exact make_getElem? hk _

/-- A handle is read as often as actions ask it. -/
theorem foldl_getElem? (hk : rs[k]? = some r) (actions : List Action) :
    (actions.foldl perform rs)[k]? =
      some { r with reads := r.reads + actions.countP (Action.asks k) } := by
  induction actions generalizing rs r with
  | nil => exact hk
  | cons a actions ih =>
    rw [List.foldl_cons, ih (perform_getElem? hk a), List.countP_cons]
    cases a.asks k <;> simp [Nat.add_assoc, Nat.add_comm]

/-- A copy starts over, and is read as often as the actions behind it ask it. -/
theorem run_clone_getElem? (actions more : List Action) (i : Nat) :
    let copy := (run actions).length
    (run (actions ++ .clone i :: more))[copy]? =
      some ⟨shapeOf (run actions) i, more.countP (Action.asks copy)⟩ := by
  intro copy
  have hmade : (perform (run actions) (.clone i))[copy]? = some ⟨shapeOf (run actions) i, 0⟩ :=
    List.getElem?_concat_length
  have hread := foldl_getElem? hmade more
  rw [Nat.zero_add] at hread
  rw [run, List.foldl_append]
  exact hread

/-- Whether there was an entry, question by question. -/
theorem isSome_answers (r : Replay) :
    r.answers.map Option.isSome =
      (List.range r.reads).map (decide <| · < r.shape.entries.length) := by
  rw [answers, List.map_map]
  apply List.map_congr_left
  intro m _
  by_cases hm : m < r.shape.entries.length
  · simp [hm]
  · simp [hm]

end Replay

/-- A handle that the replay knows of is there, and has the answers of its replay. -/
theorem Pool.Follows.exists_handle {p : Pool} {rs : List Replay} {k : Nat} {r : Replay}
    (h : p.Follows content rs) (hk : rs[k]? = some r) :
    ∃ g, p.handles[k]? = some g ∧ g.answers = r.answers := by
  have hthere : k < p.handles.length := h.length_eq ▸ (List.getElem?_eq_some_iff.1 hk).1
  have hg := List.getElem?_eq_getElem hthere
  exact ⟨_, hg, (h.handle k _ _ hg hk).answered⟩

/-! ### All handles -/

/-- A number of entries that is known at some moment is right and stays. The handle is known to
    have `n` entries behind all further actions. A copy that is made at that moment answers its
    first `n` questions with an entry and all others with none, whatever else is done meanwhile.
    The entries are items and errors alike, and fewer than a count can tell. -/
theorem Pool.exactLength?_truthful (actions : List Action) (i n : Nat) (h : Handle)
    (hi : (Pool.run actions).handles[i]? = some h)
    (hlt : (Replay.shapeOf (Replay.run actions) i).entries.length < countLimit)
    (hknown : h.cursor.exactLength? (Pool.run actions).store = some n) (more : List Action) :
    (∃ h', (Pool.run (actions ++ more)).handles[i]? = some h' ∧
      h'.cursor.exactLength? (Pool.run (actions ++ more)).store = some n) ∧
    let copy := (Pool.run actions).handles.length
    ∃ g, (Pool.run (actions ++ .clone i :: more)).handles[copy]? = some g ∧
      g.answers.map Option.isSome =
        (List.range (more.countP (Action.asks copy))).map (decide <| · < n) := by
  obtain ⟨content, hfollows⟩ := Pool.exists_follows actions
  constructor
  · have hlater := hfollows.foldl_later more
    rw [Pool.run, ← List.foldl_append] at hlater
    obtain ⟨h', hi', hrestart⟩ := hlater.kept i h hi
    refine ⟨h', hi', ?_⟩
    rw [Cursor.exactLength?_of_restart_eq hrestart]
    exact Cursor.exactLength?_later hlater.grows hknown
  · intro copy
    -- A fresh copy reads the whole sequence, and its length is the number that is known.
    have hcursor : (Pool.run actions).cursor i = h.cursor := by
      simp only [Pool.cursor, hi, Option.map_some, Option.getD_some]
    obtain ⟨-, hwhole⟩ := hfollows.cursor i
    rw [hcursor] at hwhole
    have hlength := Cursor.length_of_exactLength? hfollows.holds (hwhole ▸ hlt) hknown
    rw [hwhole] at hlength
    obtain ⟨content', hrun⟩ := Pool.exists_follows (actions ++ .clone i :: more)
    have hreplay := Replay.run_clone_getElem? actions more i
    have hcopy : copy = (Replay.run actions).length := hfollows.length_eq
    dsimp only at hreplay
    rw [← hcopy] at hreplay
    obtain ⟨g, hg, hanswers⟩ := hrun.exists_handle hreplay
    refine ⟨g, hg, ?_⟩
    rw [hanswers, Replay.isSome_answers, hlength]

/-- A function mapped over a buffer of a producer, whose end another reader of the buffer has
    found: the only entry of the sequence, which is an error, is known. -/
theorem Pool.exactLength?_truthful_map :
    let e : Error := .ofCode .invalidArgument "x"
    let actions : List Action := [.produce "p" [.ok (.node 0)], .buffer 0,
      .map (fun _ => .error e) 1, .next 1, .next 1]
    ∃ g, (Pool.run (actions ++ [.clone 2, .next 3, .next 3])).handles[3]? = some g ∧
      g.answers.map Option.isSome = [true, false] := by
  intro e actions
  have hthere : (Pool.run actions).handles[2]? =
      some ⟨.map (fun _ => .error e) (.buffered 0 0), []⟩ := rfl
  have hknown : (Cursor.map (fun _ => .error e) (.buffered 0 0)).exactLength?
      (Pool.run actions).store = some 1 := by decide +kernel
  have hcopy : (Pool.run actions).handles.length = 3 := by decide +kernel
  obtain ⟨-, hanswers⟩ :=
    Pool.exactLength?_truthful actions 2 1 _ hthere (by decide) hknown [.next 3, .next 3]
  simp only [hcopy] at hanswers
  exact hanswers

end XPathData
