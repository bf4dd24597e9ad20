import XPathData.Proofs.Tree.LastPlace

/-! # Numbers of a forest

  Trees are numbered when they are first asked for a key, and a tree that is attached to a
  parent is numbered anew with its new root. The numbers that were written before stay until
  then, and stay for good where the new root goes before it is asked. Below each root that was
  numbered all nodes have their numbers from one numbering, though not always from that root.

  * `Forest.Numbered` — every number is the place of its node in a numbering
  * `Forest.Numbered.after` — every history keeps it
  * `Forest.Numbered.exists_numbering` — the numbers of a tree are of one numbering
-/

namespace XPathData.Forest

variable {F G : Forest} {i j r q : NodeId} {t : Nat}

/-! ### Writing numbers -/

theorem getElem?_foldl_places (tree n : Nat) (l : List NodeId)
    (places : Array (Option TreePlace)) (hj : j < places.size) :
    ((l.zipIdx n).foldl (fun places p => places.setIfInBounds p.1 (some ⟨tree, p.2⟩)) places)[j]? =
      if j ∈ l then some (some ⟨tree, n + lastIdxOf j l⟩) else places[j]? := by
  induction l generalizing n places with
  | nil => simp
  | cons i l ih =>
    rw [List.zipIdx_cons, List.foldl_cons, ih (n + 1) _ (by simpa using hj)]
    by_cases hmem : j ∈ l
    · -- What is written now is overwritten later.
      rw [if_pos hmem, if_pos (List.mem_cons_of_mem i hmem), lastIdxOf_cons_of_mem hmem,
        Nat.add_right_comm, Nat.add_assoc]
    · rw [if_neg hmem]
      by_cases hi : i = j
      · subst hi
        rw [Array.getElem?_setIfInBounds_self_of_lt hj, if_pos List.mem_cons_self,
          lastIdxOf_cons_of_not_mem hmem, Nat.add_zero]
      · rw [Array.getElem?_setIfInBounds_ne hi, if_neg]
        exact fun hin => (List.mem_cons.1 hin).elim (fun heq => hi heq.symm) hmem

/-- A node that is numbered gets the last number at which the list has it. -/
theorem getElem?_writePlaces_of_mem {tree : Nat} {l : List NodeId}
    {places : Array (Option TreePlace)} (hj : j < places.size) (hmem : j ∈ l) :
    (writePlaces tree l places)[j]? = some (some ⟨tree, lastIdxOf j l⟩) := by
  rw [writePlaces, getElem?_foldl_places tree 0 l places hj, if_pos hmem, Nat.zero_add]

theorem getElem?_writePlaces_of_not_mem {tree : Nat} {l : List NodeId}
    {places : Array (Option TreePlace)} (hj : j < places.size) (hmem : j ∉ l) :
    (writePlaces tree l places)[j]? = places[j]? := by
  rw [writePlaces, getElem?_foldl_places tree 0 l places hj, if_neg hmem]

theorem lt_size_of_place {p : TreePlace} (h : F.places[i]? = some (some p)) :
    i < F.nodes.size := by
  obtain ⟨hi, -⟩ := Array.getElem?_eq_some_iff.1 h
  rwa [F.size_places] at hi

/-! ### Numbering a tree -/

theorem origin_nodes_eq (h : G.nodes = F.nodes) : G.origin.nodes = F.origin.nodes := by
  show G.allNodes = F.allNodes
  rw [allNodes, allNodes, h]

/-- The roots that were numbered, behind the numbering of one more tree. -/
theorem numbered_number (hi : F.alive i = true ∧ F.root i ∉ F.numbered) :
    (F.number i).numbered = F.numbered ++ [F.root i] := by
  rw [Forest.number, if_pos hi]

/-- The numbering writes places in its tree and leaves those outside. -/
theorem places_number (hi : F.alive i = true ∧ F.root i ∉ F.numbered) (hj : j < F.nodes.size) :
    (F.number i).places[j]? =
      if j ∈ F.origin.preorder (F.root i) then
        some (some ⟨F.numbered.length + 1, lastIdxOf j (F.origin.preorder (F.root i))⟩)
      else F.places[j]? := by
  rw [preorder_origin (alive_root hi.1), Forest.number, if_pos hi]
  split
  · next hmem => exact getElem?_writePlaces_of_mem (F.size_places ▸ hj) hmem
  · next hmem => exact getElem?_writePlaces_of_not_mem (F.size_places ▸ hj) hmem

theorem preorder_origin_number (F : Forest) (i r : NodeId) :
    (F.number i).origin.preorder r = F.origin.preorder r :=
  preorder_of_nodes_eq (origin_nodes_eq (F.nodes_number i)) r

/-! ### The invariant -/

/-- The numbering with a number started at this node. -/
def StartedAt (F : Forest) (t : Nat) (r : NodeId) : Prop := 0 < t ∧ F.numbered[t - 1]? = some r

theorem StartedAt.eq (h : F.StartedAt t r) (h' : F.StartedAt t q) : r = q :=
  Option.some.inj (h.2.symm.trans h'.2)

theorem StartedAt.mem (h : F.StartedAt t r) : r ∈ F.numbered := List.mem_of_getElem? h.2

/-- Each root was numbered once. What is written for a node is its last place in a numbering that
    went through it, and below a root that was numbered all is from one numbering. -/
structure Numbered (F : Forest) : Prop where
  nodup : F.numbered.Nodup
  lt_size : ∀ r ∈ F.numbered, r < F.nodes.size
  placed : ∀ i p, F.places[i]? = some (some p) → ∃ r, F.StartedAt p.tree r ∧
    i ∈ F.origin.preorder r ∧ p.index = lastIdxOf i (F.origin.preorder r)
  together : ∀ r ∈ F.numbered, F.alive r = true →
    ∃ t, ∀ i ∈ F.origin.preorder r, ∃ k, F.places[i]? = some (some ⟨t, k⟩)

namespace Numbered

theorem empty (backend : Backend) : (Forest.empty backend).Numbered where
  nodup := List.nodup_nil
  lt_size _ h := by cases h
  placed i p h := absurd (lt_size_of_place h) (Nat.not_lt_zero i)
  together _ h := by cases h

/-- Events that write no numbers. -/
theorem record_of_places (h : F.Numbered) {e : Event}
    (hnumbered : (F.record e).numbered = F.numbered)
    (hplaces : ∀ (i : NodeId) (p : TreePlace),
      (F.record e).places[i]? = some (some p) ↔ F.places[i]? = some (some p))
    (halive : ∀ r < F.nodes.size, (F.record e).alive r = true → F.alive r = true) :
    (F.record e).Numbered where
  nodup := hnumbered ▸ h.nodup
  lt_size r hr := Nat.lt_of_lt_of_le (h.lt_size r (hnumbered ▸ hr)) (F.size_record e).1
  placed i p hp := by
    obtain ⟨r, hr, hi⟩ := h.placed i p ((hplaces i p).1 hp)
    refine ⟨r, ⟨hr.1, hnumbered ▸ hr.2⟩, ?_⟩
    rwa [preorder_origin_record e (h.lt_size r hr.mem)]
  together r hr hr' := by
    rw [hnumbered] at hr
    have hlt := h.lt_size r hr
    obtain ⟨t, ht⟩ := h.together r hr (halive r hlt hr')
    refine ⟨t, fun i hi => ?_⟩
    rw [preorder_origin_record e hlt] at hi
    obtain ⟨k, hk⟩ := ht i hi
    exact ⟨k, (hplaces i _).2 hk⟩

/-- The new node has no number yet. -/
theorem add (h : F.Numbered) (n : NodeContent) : (F.add n).Numbered := by
  refine h.record_of_places (e := .add n) rfl (fun i p => ?_) fun r hr halive => ?_
  · show (F.places.push none)[i]? = _ ↔ _
    rw [Array.getElem?_push]
    split
    · next hi => simp [hi]
    · exact Iff.rfl
  · rwa [record, alive_add, decide_eq_false (Nat.ne_of_lt hr), Bool.false_or] at halive

/-- What goes takes no numbers away from the others. -/
theorem drop (h : F.Numbered) (j : NodeId) : (F.drop j).Numbered := by
  have hnumbered : (F.drop j).numbered = F.numbered := by
    unfold Forest.drop
    split <;> rfl
  have hplaces : (F.drop j).places = F.places := by
    unfold Forest.drop
    split <;> rfl
  exact h.record_of_places (e := .drop j) hnumbered (fun i p => by rw [record, hplaces])
    fun r _ => alive_of_alive_drop

theorem placed_number (h : F.Numbered) (hi : F.alive i = true ∧ F.root i ∉ F.numbered)
    {p : TreePlace} (hp : (F.number i).places[j]? = some (some p)) :
    ∃ r, (F.number i).StartedAt p.tree r ∧ j ∈ F.origin.preorder r ∧
      p.index = lastIdxOf j (F.origin.preorder r) := by
  have hj := lt_size_of_place hp
  rw [nodes_number] at hj
  rw [places_number hi hj] at hp
  unfold StartedAt
  rw [numbered_number hi]
  split at hp
  · next hmem =>
    cases hp
    exact ⟨F.root i, ⟨Nat.succ_pos _, by simp⟩, hmem, rfl⟩
  · obtain ⟨r, hr, hjr⟩ := h.placed j p hp
    refine ⟨r, ⟨hr.1, ?_⟩, hjr⟩
    rw [List.getElem?_append_left (List.getElem?_eq_some_iff.1 hr.2).1]
    exact hr.2

/-- A tree that was numbered lies all in the one that is numbered now, or outside of it. -/
theorem together_number (h : F.Numbered) (hi : F.alive i = true ∧ F.root i ∉ F.numbered)
    (hr : r ∈ F.numbered ++ [F.root i]) (halive : F.alive r = true) :
    ∃ t, ∀ j ∈ F.origin.preorder r, ∃ k, (F.number i).places[j]? = some (some ⟨t, k⟩) := by
  have hroot := preorder_origin (alive_root hi.1)
  have hlt (j : NodeId) (hj : j ∈ F.origin.preorder r) : j < F.nodes.size :=
    Nat.lt_of_le_of_lt (le_of_mem_preorder hj) (lt_size_of_alive halive)
  by_cases hmem : r ∈ F.origin.preorder (F.root i)
  · refine ⟨F.numbered.length + 1, fun j hj => ⟨lastIdxOf j (F.origin.preorder (F.root i)), ?_⟩⟩
    rw [places_number hi (hlt j hj), if_pos (mem_preorder_trans hj hmem)]
  · have hold : r ∈ F.numbered := by
      rw [List.mem_append, List.mem_singleton] at hr
      refine hr.resolve_right ?_
      rintro rfl
      exact hmem (F.origin.mem_preorder_self _)
    obtain ⟨t, ht⟩ := h.together r hold halive
    refine ⟨t, fun j hj => ?_⟩
    rw [places_number hi (hlt j hj), if_neg]
    · exact ht j hj
    · -- A node in both trees would have both roots.
      intro hin
      rw [preorder_origin halive] at hj
      rw [hroot] at hin hmem
      have hroots := (root_eq_of_mem_preorder hj).symm.trans (root_eq_of_mem_preorder hin)
      rw [root_root] at hroots
      exact hmem (hroots ▸ F.mem_preorder_root r)

theorem number (h : F.Numbered) (i : NodeId) : (F.number i).Numbered := by
  by_cases hi : F.alive i = true ∧ F.root i ∉ F.numbered
  · have hnumbered := numbered_number hi
    refine ⟨?_, fun r hr => ?_, fun j p hp => ?_, fun r hr halive => ?_⟩
    · rw [hnumbered]
      exact h.nodup.append (List.nodup_singleton _) (by simpa using hi.2)
    · rw [nodes_number]
      rw [hnumbered, List.mem_append, List.mem_singleton] at hr
      rcases hr with hr | rfl
      · exact h.lt_size r hr
      · exact lt_size_of_alive (alive_root hi.1)
    · simp only [preorder_origin_number]
      exact placed_number h hi hp
    · rw [alive_of_nodes_eq (F.nodes_number i)] at halive
      rw [preorder_origin_number]
      exact together_number h hi (hnumbered ▸ hr) halive
  · rw [Forest.number, if_neg hi]
    exact h

theorem touch (h : F.Numbered) (i : NodeId) : (F.touch i).Numbered := by
  unfold Forest.touch
  split
  · exact h.number i
  · exact h

theorem foldl_touch (h : F.Numbered) (l : List NodeId) : (l.foldl Forest.touch F).Numbered := by
  induction l generalizing F with
  | nil => exact h
  | cons i l ih => exact ih (h.touch i)

theorem record (h : F.Numbered) (e : Event) : (F.record e).Numbered := by
  cases e with
  | add n => exact h.add n
  | ask l => exact h.foldl_touch l
  | drop j => exact h.drop j

/-- The numbers are places in numberings through every history. -/
theorem after (h : F.Numbered) (history : List Event) : (F.after history).Numbered := by
  induction history generalizing F with
  | nil => exact h
  | cons e history ih => exact ih (h.record e)

end Numbered

/-! ### Trees that were numbered -/

/-- The numbers of a tree are of one numbering, which may have started further up, at a node that
    is gone. -/
theorem Numbered.exists_numbering (h : F.Numbered) (hr : r ∈ F.numbered)
    (halive : F.alive r = true) :
    ∃ t q, F.StartedAt t q ∧ ∀ i ∈ F.origin.preorder r, i ∈ F.origin.preorder q ∧
      F.places[i]? = some (some ⟨t, lastIdxOf i (F.origin.preorder q)⟩) := by
  obtain ⟨t, ht⟩ := h.together r hr halive
  obtain ⟨k, hk⟩ := ht r (F.origin.mem_preorder_self r)
  obtain ⟨q, hq, -, -⟩ := h.placed r _ hk
  refine ⟨t, q, hq, fun i hi => ?_⟩
  obtain ⟨m, hm⟩ := ht i hi
  obtain ⟨q', hq', hmem, hindex⟩ := h.placed i _ hm
  obtain rfl := hq.eq hq'
  obtain rfl : m = _ := hindex
  exact ⟨hmem, hm⟩

theorem numbered_after_empty (backend : Backend) (history : List Event) :
    ((empty backend).after history).Numbered :=
  (Numbered.empty backend).after history

end XPathData.Forest
