import Mathlib.Algebra.Group.Nat.Defs
import Mathlib.Data.List.Perm.Subperm
import XPathData.Proofs.Tree.Numbering
import XPathData.Tree.Build

/-! # Keys follow the tree

  A key holds the number of a numbering and the place of a node in it, 32 bits of each. Asking for
  keys numbers trees and leaves the numbers of the other trees as they are. Nodes of one tree have
  their numbers from one numbering, in the order of that tree. Different trees have different
  numbers, but for trees that hung below one node when it was numbered and lost their parents later.

  * `Forest.PlacedAt` — a node of a numbered tree and its place
  * `Forest.Keeps` — what becomes of a forest when nodes are asked
  * `Forest.IndexFits` — a key has the bits for the place of its node
  * `Forest.keys_follow_tree` — keys order nodes as ancestry does, whenever they are asked
-/

namespace XPathData

/-! ### Keys of 64 bits -/

theorem TreePlace.toNat_key (p : TreePlace) :
    p.key.toNat = p.tree % 2 ^ 32 * 2 ^ 32 + p.index % 2 ^ 32 := by
  have hindex : p.index % 2 ^ 64 % 2 ^ 32 = p.index % 2 ^ 32 := Nat.mod_mod_of_dvd _ (by decide)
  have htree : (p.tree % 2 ^ 64) <<< 32 % 2 ^ 64 = (p.tree % 2 ^ 32) <<< 32 := by
    rw [Nat.shiftLeft_eq, Nat.shiftLeft_eq]
    omega
  have hlt : p.index % 2 ^ 32 < 2 ^ 32 := Nat.mod_lt _ (by decide)
  have h32 : (32 : UInt64).toNat % 64 = 32 := rfl
  have hmask : (0xFFFFFFFF : UInt64).toNat = 2 ^ 32 - 1 := rfl
  rw [TreePlace.key, UInt64.toNat_or, UInt64.toNat_shiftLeft, UInt64.toNat_and,
    UInt64.toNat_ofNat', UInt64.toNat_ofNat', h32, hmask, Nat.and_two_pow_sub_one_eq_mod, hindex,
    htree, ← Nat.shiftLeft_add_eq_or_of_lt hlt, Nat.shiftLeft_eq]

theorem compare_toNat (x y : UInt64) : compare x y = compare x.toNat y.toNat := by
  rcases Nat.lt_trichotomy x.toNat y.toNat with h | h | h
  · rw [Nat.compare_eq_lt.2 h]
    exact Std.compare_eq_lt.2 (UInt64.lt_iff_toNat_lt.2 h)
  · obtain rfl := UInt64.toNat_inj.1 h
    simp only [Std.ReflCmp.compare_self]
  · rw [Nat.compare_eq_gt.2 h]
    exact Std.compare_eq_gt.2 (UInt64.lt_iff_toNat_lt.2 h)

/-- Keys of one tree compare as what they hold of the places. -/
theorem TreePlace.compare_key {p q : TreePlace} (h : p.tree = q.tree) :
    compare p.key q.key = compare (p.index % 2 ^ 32) (q.index % 2 ^ 32) := by
  rw [compare_toNat, p.toNat_key, q.toNat_key, h, compare_add_left]

namespace Forest

variable {F G H : Forest} {a b c i j r q : NodeId} {s t u : TreePlace}

/-! ### Asking for keys -/

theorem backend_touch (F : Forest) (i : NodeId) : (F.touch i).backend = F.backend := by
  unfold touch number
  split
  · split <;> rfl
  · rfl

theorem backend_foldl_touch (F : Forest) (l : List NodeId) :
    (l.foldl touch F).backend = F.backend := by
  induction l generalizing F with
  | nil => rfl
  | cons i l ih => rw [List.foldl_cons, ih, backend_touch]

theorem backend_after (F : Forest) (history : List Event) :
    (F.after history).backend = F.backend := by
  induction history generalizing F with
  | nil => rfl
  | cons e history ih =>
    refine (ih (F.record e)).trans ?_
    cases e with
    | add n => rfl
    | ask l => exact F.backend_foldl_touch l
    | drop j =>
      rw [record, drop]
      split <;> rfl

theorem mem_numbered_touch (hr : r ∈ F.numbered) (i : NodeId) : r ∈ (F.touch i).numbered := by
  unfold touch number
  split
  · split
    · exact List.mem_append_left _ hr
    · exact hr
  · exact hr

theorem root_mem_numbered_touch (hkeyed : F.backend.keyed = true) (hi : F.alive i = true) :
    F.root i ∈ (F.touch i).numbered := by
  rw [touch, if_pos hkeyed, number]
  split
  · exact List.mem_append_right _ (List.mem_singleton.2 rfl)
  · next hnot =>
    by_contra hmem
    exact hnot ⟨hi, hmem⟩

/-- Where the tree was numbered, asking again changes nothing. -/
theorem touch_of_mem (hr : F.root i ∈ F.numbered) : F.touch i = F := by
  rw [touch, number, if_neg (not_and_not_right.2 fun _ => hr), ite_self]

/-! ### Places -/

theorem place?_eq_some_iff :
    F.place? i = some t ↔ F.backend.keyed = true ∧ F.places[i]? = some (some t) := by
  unfold place?
  split
  · next hkeyed => rw [Option.join_eq_some_iff, and_iff_right hkeyed]
  · next hkeyed => simp [hkeyed]

theorem place?_eq_none (hkeyed : ¬F.backend.keyed = true) (a : NodeId) : F.place? a = none := by
  rw [place?, if_neg hkeyed]

/-- A node that is there, in a tree that was numbered, has this place. -/
structure PlacedAt (F : Forest) (i : NodeId) (t : TreePlace) : Prop where
  alive : F.alive i = true
  numbered : F.root i ∈ F.numbered
  place : F.place? i = some t

/-- A tree hung below a node that is gone. -/
def Orphan (F : Forest) (r : NodeId) : Prop := F.owner r ≠ none ∧ (F.node r).parent = none

/-- A root that belongs to nobody is where its numbering started. -/
theorem start_eq_of_owner (hr : r ∈ F.origin.preorder q) (howner : F.owner r = none) : q = r := by
  have htop : (F.origin.node r).parent = none := by
    cases hp : (F.origin.node r).parent with
    | none => rfl
    | some p =>
      rw [parent_origin_iff, howner] at hp
      cases hp
  rw [mem_preorder_iff_mem_ancestors, ancestors_top htop, List.mem_singleton] at hr
  exact hr

namespace Numbered

/-- The places of a tree are of one numbering. -/
theorem exists_places (h : F.Numbered) (hkeyed : F.backend.keyed = true)
    (hr : r ∈ F.numbered) (halive : F.alive r = true) :
    ∃ n q, F.StartedAt n q ∧ r ∈ F.origin.preorder q ∧ ∀ i, F.root i = r →
      i ∈ F.origin.preorder q ∧ F.place? i = some ⟨n, lastIdxOf i (F.origin.preorder q)⟩ := by
  obtain ⟨n, q, hq, hplaces⟩ := h.exists_numbering hr halive
  refine ⟨n, q, hq, (hplaces r (F.origin.mem_preorder_self r)).1, fun i hi => ?_⟩
  have hmem : i ∈ F.origin.preorder r := by
    rw [preorder_origin halive, ← hi]
    exact F.mem_preorder_root i
  exact ⟨(hplaces i hmem).1, place?_eq_some_iff.2 ⟨hkeyed, (hplaces i hmem).2⟩⟩

theorem exists_placedAt (h : F.Numbered) (hkeyed : F.backend.keyed = true)
    (hi : F.alive i = true) (hroot : F.root i ∈ F.numbered) : ∃ t, F.PlacedAt i t := by
  obtain ⟨n, q, -, -, hplaces⟩ := h.exists_places hkeyed hroot (alive_root hi)
  exact ⟨_, hi, hroot, (hplaces i rfl).2⟩

/-- The numbering that the tree of a node has its places from. -/
theorem exists_numbering_of_place (h : F.Numbered) (ha : F.PlacedAt a s) :
    ∃ q, F.StartedAt s.tree q ∧ F.root a ∈ F.origin.preorder q ∧
      ∀ i u, F.root i = F.root a → F.place? i = some u → u.tree = s.tree ∧
        i ∈ F.origin.preorder q ∧ u.index = lastIdxOf i (F.origin.preorder q) := by
  obtain ⟨n, q, hq, hr, hplaces⟩ := h.exists_places (place?_eq_some_iff.1 ha.place).1 ha.numbered
    (alive_root ha.alive)
  obtain rfl := Option.some.inj (ha.place.symm.trans (hplaces a rfl).2)
  refine ⟨q, hq, hr, fun i u hi hu => ?_⟩
  obtain rfl := Option.some.inj (hu.symm.trans (hplaces i hi).2)
  exact ⟨rfl, (hplaces i hi).1, rfl⟩

/-- Places of one numbering, as it went through them. -/
theorem exists_start (h : F.Numbered) (ha : F.place? a = some s) (hb : F.place? b = some t)
    (htree : s.tree = t.tree) :
    ∃ q, F.StartedAt s.tree q ∧ (a ∈ F.origin.preorder q ∧ b ∈ F.origin.preorder q) ∧
      s.index = lastIdxOf a (F.origin.preorder q) ∧
      t.index = lastIdxOf b (F.origin.preorder q) := by
  obtain ⟨q, hq, hmem, hindex⟩ := h.placed a s (place?_eq_some_iff.1 ha).2
  obtain ⟨q', hq', hmem', hindex'⟩ := h.placed b t (place?_eq_some_iff.1 hb).2
  rw [← htree] at hq'
  obtain rfl := hq.eq hq'
  exact ⟨q, hq, ⟨hmem, hmem'⟩, hindex, hindex'⟩

/-- Two nodes have two places. -/
theorem place_inj (h : F.Numbered) (ha : F.place? a = some s) (hb : F.place? b = some t)
    (htree : s.tree = t.tree) (hindex : s.index = t.index) : a = b := by
  obtain ⟨q, -, ⟨hmem, hmem'⟩, hs, ht⟩ := h.exists_start ha hb htree
  exact (lastIdxOf_inj hmem hmem').1 (hs.symm.trans (hindex.trans ht))

/-- Nodes of one tree have the number of one numbering. -/
theorem tree_eq_of_root (h : F.Numbered) (ha : F.PlacedAt a s) (hb : F.PlacedAt b t)
    (hroot : F.root a = F.root b) : s.tree = t.tree := by
  obtain ⟨q, -, -, hplaces⟩ := h.exists_numbering_of_place ha
  exact (hplaces b t hroot.symm hb.place).1.symm

/-- A tree with the number of another one hung below the node at which the numbering started. -/
theorem orphan_of_tree_eq (h : F.Numbered) (ha : F.PlacedAt a s) (hb : F.PlacedAt b t)
    (htree : s.tree = t.tree) (hroot : F.root a ≠ F.root b) : F.Orphan (F.root a) := by
  refine ⟨fun howner => hroot ?_, F.parent_root a⟩
  obtain ⟨q, hq, hr, -⟩ := h.exists_numbering_of_place ha
  obtain ⟨q', hq', ⟨-, hmem⟩, -, -⟩ := h.exists_start ha.place hb.place htree
  obtain rfl := hq.eq hq'
  rw [start_eq_of_owner hr howner, preorder_origin (alive_root ha.alive)] at hmem
  rw [root_eq_of_mem_preorder hmem, root_root]

end Numbered

/-! ### The order of places -/

theorem mem_ancestors_trans (ha : a ∈ F.ancestors b) (hb : b ∈ F.ancestors c) :
    a ∈ F.ancestors c := by
  rw [← mem_preorder_iff_mem_ancestors] at ha hb ⊢
  exact mem_preorder_trans hb ha

/-- Last places compare alike from all nodes above. -/
theorem compare_last_of_mem (hr : r ∈ F.preorder q) (ha : a ∈ F.preorder r)
    (hb : b ∈ F.preorder r) :
    compare (lastIdxOf a (F.preorder q)) (lastIdxOf b (F.preorder q)) =
      compare (lastIdxOf a (F.preorder r)) (lastIdxOf b (F.preorder r)) := by
  have haq := mem_preorder_trans ha hr
  have hbq := mem_preorder_trans hb hr
  rw [mem_preorder_iff_mem_ancestors] at ha hb haq hbq
  rw [← compare_last_root haq hbq, ← compare_last_root ha hb, root_eq_of_mem_preorder hr]

namespace Numbered

/-- In one tree places compare as last places in the preorder. -/
theorem compare_index (h : F.Numbered) (ha : F.PlacedAt a s) (hb : F.PlacedAt b t)
    (hroot : F.root a = F.root b) :
    compare s.index t.index = compare (lastIdxOf a (F.preorder (F.root a)))
      (lastIdxOf b (F.preorder (F.root a))) := by
  have halive := alive_root ha.alive
  obtain ⟨q, -, hr, hplaces⟩ := h.exists_numbering_of_place ha
  obtain ⟨-, -, hs⟩ := hplaces a s rfl ha.place
  obtain ⟨-, -, ht⟩ := hplaces b t hroot.symm hb.place
  rw [hs, ht, compare_last_of_mem hr, preorder_origin halive]
  · rw [preorder_origin halive]
    exact F.mem_preorder_root a
  · rw [preorder_origin halive, hroot]
    exact F.mem_preorder_root b

/-- The places of a tree have those of no other tree between them. -/
theorem root_eq_of_between (h : F.Numbered) (ha : F.PlacedAt a s) (hb : F.PlacedAt b t)
    (hc : F.PlacedAt c u) (hroot : F.root a = F.root c) (htree : s.tree = t.tree)
    (hab : s.index < t.index) (hbc : t.index < u.index) : F.root b = F.root a := by
  have halive := alive_root ha.alive
  obtain ⟨q, hq, hr, hplaces⟩ := h.exists_numbering_of_place ha
  obtain ⟨-, haq, hs⟩ := hplaces a s rfl ha.place
  obtain ⟨-, hcq, hu⟩ := hplaces c u hroot.symm hc.place
  obtain ⟨q', hq', ⟨-, hbq⟩, -, ht⟩ := h.exists_start ha.place hb.place htree
  obtain rfl := hq.eq hq'
  rcases above_or_forks_below hr hbq with habove | hbelow | ⟨p, d, e, hforks⟩
  · rw [← mem_preorder_iff_mem_ancestors, preorder_origin halive] at habove
    rw [root_eq_of_mem_preorder habove, root_root]
  · rw [← mem_preorder_iff_mem_ancestors, preorder_origin hb.alive] at hbelow
    rw [← root_eq_of_mem_preorder hbelow, root_root]
  · -- The whole tree lies in one branch, and the other node in another one.
    have hside {x : NodeId} (hx : F.root x = F.root a) (hxq : x ∈ F.origin.preorder q) :
        compare (lastIdxOf x (F.origin.preorder q)) (lastIdxOf b (F.origin.preorder q)) =
          compare (F.origin.lastPosition p d) (F.origin.lastPosition p e) := by
      have hxr : F.root a ∈ F.origin.ancestors x := by
        rw [← mem_preorder_iff_mem_ancestors, preorder_origin halive, ← hx]
        exact F.mem_preorder_root x
      have hfork : F.origin.Forks p d e x b :=
        { hforks with above_left := mem_ancestors_trans hforks.above_left hxr }
      have hqp : F.origin.root q = F.origin.root p :=
        (root_eq_of_mem_preorder hxq).symm.trans hfork.root_left
      rw [← hfork.compare_last, ← hqp]
      exact (compare_last_root (mem_preorder_iff_mem_ancestors.1 hxq)
        (mem_preorder_iff_mem_ancestors.1 hbq)).symm
    have hleft := hside rfl haq
    have hright := hside hroot.symm hcq
    rw [hs, ht] at hab
    rw [ht, hu] at hbc
    rw [Nat.compare_eq_lt.2 hab] at hleft
    rw [Nat.compare_eq_gt.2 hbc, ← hleft] at hright
    cases hright

end Numbered

/-! ### Numbers that stay -/

/-- The place of a node in the numbering of its tree, as it is once the node was asked. -/
def index? (F : Forest) (i : NodeId) : Option Nat := ((F.touch i).place? i).map TreePlace.index

/-- The place of a node in its numbering takes no more than the 32 bits that its key has for it. -/
def IndexFits (F : Forest) (i : NodeId) : Prop := ∀ k, F.index? i = some k → k < 2 ^ 32

/-- What becomes of a forest when some nodes are asked. -/
def Keeps (F H : Forest) : Prop := ∃ l : List NodeId, H = l.foldl touch F

/-- The index of a place fits if that of its node does. -/
theorem PlacedAt.index_lt (h : F.PlacedAt i t) (hfits : F.IndexFits i) : t.index < 2 ^ 32 := by
  refine hfits _ ?_
  rw [index?, touch_of_mem h.numbered, h.place]
  rfl

/-- A tree that is numbered leaves the other trees as they were. -/
theorem place?_touch (hi : i < F.nodes.size) (hroot : F.root i ∈ F.numbered) (j : NodeId) :
    (F.touch j).place? i = F.place? i := by
  unfold place?
  rw [backend_touch]
  split
  · next hkeyed =>
    by_cases hj : F.alive j = true ∧ F.root j ∉ F.numbered
    · have hnot : i ∉ F.origin.preorder (F.root j) := by
        rw [preorder_origin (alive_root hj.1)]
        intro hmem
        rw [root_eq_of_mem_preorder hmem, root_root] at hroot
        exact hj.2 hroot
      rw [touch, if_pos hkeyed, places_number hj hi, if_neg hnot]
    · rw [touch, if_pos hkeyed, number, if_neg hj]
  · rfl

/-- A numbering is that of the root, whichever of its nodes is asked. -/
theorem touch_eq_touch (hi : F.alive i = true) (hj : F.alive j = true)
    (hroot : F.root i = F.root j) : F.touch i = F.touch j := by
  simp only [touch, number, hi, hj, hroot]

theorem alive_of_new (hj : r ∈ (F.touch j).numbered) (hr : r ∉ F.numbered) :
    F.alive j = true ∧ r = F.root j := by
  unfold touch number at hj
  split at hj
  · split at hj
    · next hnew =>
      rw [List.mem_append, List.mem_singleton] at hj
      exact ⟨hnew.1, hj.resolve_left hr⟩
    · exact absurd hj hr
  · exact absurd hj hr

/-- What a node gets that lies in no numbered tree. -/
theorem place?_touch_of_not_mem (hkeyed : F.backend.keyed = true) (hi : F.alive i = true)
    (hroot : F.root i ∉ F.numbered) : (F.touch i).place? i =
      some ⟨F.numbered.length + 1, lastIdxOf i (F.origin.preorder (F.root i))⟩ := by
  have hmem : i ∈ F.origin.preorder (F.root i) := by
    rw [preorder_origin (alive_root hi)]
    exact F.mem_preorder_root i
  refine place?_eq_some_iff.2 ⟨by rwa [backend_touch], ?_⟩
  rw [touch, if_pos hkeyed, places_number ⟨hi, hroot⟩ (lt_size_of_alive hi), if_pos hmem]

/-- Nobody gets another place for having been asked later. -/
theorem index?_touch (hi : F.alive i = true) (j : NodeId) :
    (F.touch j).index? i = F.index? i := by
  by_cases hkeyed : F.backend.keyed = true
  · have hnodes := F.nodes_touch j
    have hroot := root_of_nodes_eq hnodes i
    by_cases hold : F.root i ∈ F.numbered
    · have hmem : (F.touch j).root i ∈ (F.touch j).numbered := by
        rw [hroot]
        exact mem_numbered_touch hold j
      rw [index?, touch_of_mem hmem, index?, touch_of_mem hold,
        place?_touch (lt_size_of_alive hi) hold]
    by_cases hnew : F.root i ∈ (F.touch j).numbered
    · obtain ⟨hj, hsame⟩ := alive_of_new hnew hold
      rw [index?, touch_of_mem (by rwa [hroot]), index?, touch_eq_touch hi hj hsame]
    · rw [index?, index?, place?_touch_of_not_mem hkeyed hi hold,
        place?_touch_of_not_mem (by rwa [backend_touch]) (by rwa [alive_of_nodes_eq hnodes])
          (by rwa [hroot]), hroot, preorder_of_nodes_eq (origin_nodes_eq hnodes)]
      rfl
  · rw [touch, if_neg hkeyed]

namespace Keeps

theorem refl (F : Forest) : F.Keeps F := ⟨[], rfl⟩

theorem touch (F : Forest) (j : NodeId) : F.Keeps (F.touch j) := ⟨[j], rfl⟩

theorem foldl_touch (F : Forest) (l : List NodeId) : F.Keeps (l.foldl Forest.touch F) := ⟨l, rfl⟩

theorem trans (h : F.Keeps G) (h' : G.Keeps H) : F.Keeps H := by
  obtain ⟨l, rfl⟩ := h
  obtain ⟨m, rfl⟩ := h'
  exact ⟨l ++ m, List.foldl_append.symm⟩

theorem nodes (h : F.Keeps H) : H.nodes = F.nodes := by
  obtain ⟨l, rfl⟩ := h
  exact F.nodes_foldl_touch l

theorem backend (h : F.Keeps H) : H.backend = F.backend := by
  obtain ⟨l, rfl⟩ := h
  exact F.backend_foldl_touch l

theorem alive_eq (h : F.Keeps H) (i : NodeId) : H.alive i = F.alive i := alive_of_nodes_eq h.nodes i

theorem root_eq (h : F.Keeps H) (i : NodeId) : H.root i = F.root i := root_of_nodes_eq h.nodes i

theorem address_eq (h : F.Keeps H) (i : NodeId) : H.address i = F.address i :=
  address_of_nodes_eq h.nodes i

theorem numbered (h : F.Keeps H) (hF : F.Numbered) : H.Numbered := by
  obtain ⟨l, rfl⟩ := h
  exact hF.foldl_touch l

theorem mem_numbered (h : F.Keeps H) (hr : r ∈ F.numbered) : r ∈ H.numbered := by
  obtain ⟨l, rfl⟩ := h
  induction l generalizing F with
  | nil => exact hr
  | cons j l ih => exact ih (mem_numbered_touch hr j)

/-- Trees that were numbered keep their numbers. -/
theorem place (h : F.Keeps H) (hi : i < F.nodes.size) (hroot : F.root i ∈ F.numbered) :
    H.place? i = F.place? i := by
  obtain ⟨l, rfl⟩ := h
  induction l generalizing F with
  | nil => rfl
  | cons j l ih =>
    have hnodes := F.nodes_touch j
    rw [List.foldl_cons, ih (by rwa [hnodes]), place?_touch hi hroot]
    rw [root_of_nodes_eq hnodes]
    exact mem_numbered_touch hroot j

theorem index?_eq (h : F.Keeps H) (hi : F.alive i = true) : H.index? i = F.index? i := by
  obtain ⟨l, rfl⟩ := h
  induction l generalizing F with
  | nil => rfl
  | cons j l ih =>
    rw [List.foldl_cons, ih (by rwa [alive_of_nodes_eq (F.nodes_touch j)]), index?_touch hi]

theorem indexFits (h : F.Keeps H) (hi : F.alive i = true) (hfits : F.IndexFits i) :
    H.IndexFits i := by
  rwa [IndexFits, h.index?_eq hi]

end Keeps

/-- Behind the asking every node that was asked lies in a numbered tree. -/
theorem root_mem_numbered_foldl_touch (hkeyed : F.backend.keyed = true) {l : List NodeId}
    (hi : F.alive i = true) (hmem : i ∈ l) : F.root i ∈ (l.foldl touch F).numbered := by
  induction l generalizing F with
  | nil => cases hmem
  | cons j l ih =>
    rw [List.foldl_cons]
    rcases List.mem_cons.1 hmem with rfl | hmem
    · exact (Keeps.foldl_touch _ l).mem_numbered (root_mem_numbered_touch hkeyed hi)
    · have hnodes := F.nodes_touch j
      rw [← root_of_nodes_eq hnodes i]
      exact ih (by rwa [backend_touch]) (by rwa [alive_of_nodes_eq hnodes]) hmem

/-! ### Two nodes that are asked -/

variable {x y : UInt64}

/-- The places that two nodes answer, asked one after the other. -/
theorem Numbered.exists_placedAt_asked (h : F.Numbered) (hkeyed : F.backend.keyed = true)
    (ha : F.alive a = true) (hb : F.alive b = true) :
    ∃ s t, ((F.touch a).touch b).PlacedAt a s ∧ ((F.touch a).touch b).PlacedAt b t ∧
      (F.touch a).place? a = some s := by
  have hkeeps := Keeps.touch F a
  have hlater := hkeeps.trans (Keeps.touch (F.touch a) b)
  have hG := (h.touch a).touch b
  have hkeyed' : (F.touch a).backend.keyed = true := by rwa [backend_touch]
  have hmem := root_mem_numbered_touch hkeyed ha
  have hmem' : (F.touch a).root b ∈ ((F.touch a).touch b).numbered :=
    root_mem_numbered_touch hkeyed' (by rwa [hkeeps.alive_eq])
  obtain ⟨s, hs⟩ := hG.exists_placedAt (i := a) (by rwa [backend_touch])
    (by rwa [hlater.alive_eq]) (by rw [hlater.root_eq]; exact mem_numbered_touch hmem b)
  obtain ⟨t, ht⟩ := hG.exists_placedAt (i := b) (by rwa [backend_touch])
    (by rwa [hlater.alive_eq]) (by rwa [hlater.root_eq, ← hkeeps.root_eq])
  refine ⟨s, t, hs, ht, ?_⟩
  -- Asking the second node leaves the place of the first one as it is.
  rw [← hs.place]
  refine (place?_touch ?_ ?_ b).symm
  · rw [hkeeps.nodes]
    exact lt_size_of_alive ha
  · rwa [hkeeps.root_eq]

/-- The keys of two nodes of one tree compare as their last places in the preorder, if they have the
    bits for their indices. -/
theorem Numbered.keys_asked (h : F.Numbered) (hkeyed : F.backend.keyed = true)
    (ha : F.alive a = true) (hb : F.alive b = true) (hroot : F.root a = F.root b)
    (hfits : F.IndexFits a) (hfits' : F.IndexFits b) :
    ∃ x y, (F.touch a).orderKey? a = some x ∧ ((F.touch a).touch b).orderKey? b = some y ∧
      compare x y = compare (lastIdxOf a (F.preorder (F.root a)))
        (lastIdxOf b (F.preorder (F.root a))) := by
  obtain ⟨s, t, hs, ht, hplace⟩ := h.exists_placedAt_asked hkeyed ha hb
  have hkeeps := (Keeps.touch F a).trans (Keeps.touch (F.touch a) b)
  have hG := (h.touch a).touch b
  have hroot' : ((F.touch a).touch b).root a = ((F.touch a).touch b).root b := by
    rw [hkeeps.root_eq, hkeeps.root_eq, hroot]
  refine ⟨s.key, t.key, congrArg (Option.map TreePlace.key) hplace,
    congrArg (Option.map TreePlace.key) ht.place, ?_⟩
  rw [TreePlace.compare_key (hG.tree_eq_of_root hs ht hroot'),
    Nat.mod_eq_of_lt (hs.index_lt (hkeeps.indexFits ha hfits)),
    Nat.mod_eq_of_lt (ht.index_lt (hkeeps.indexFits hb hfits')),
    hG.compare_index hs ht hroot', hkeeps.root_eq, preorder_of_nodes_eq hkeeps.nodes]

/-! ### Keys and ancestry -/

theorem length_le_of_nodup {l : List NodeId} {n : Nat} (h : l.Nodup) (hlt : ∀ i ∈ l, i < n) :
    l.length ≤ n := by
  have hsub : l ⊆ List.range n := fun i hi => List.mem_range.2 (hlt i hi)
  have hle := (List.subperm_of_subset h hsub).length_le
  rwa [List.length_range] at hle

/-- Where nobody lists a node twice, a tree is numbered in no more steps than there are nodes. -/
theorem length_preorder_le (honce : F.ListsOnce) (hi : i < F.nodes.size) :
    (F.preorder i).length ≤ F.nodes.size := by
  have hnodup : (F.preorder i).Nodup := by
    refine (preorder_pairwise honce i).imp fun {a b} hlt hab => ?_
    subst hab
    simp only [Std.ReflCmp.compare_self, reduceCtorEq] at hlt
  exact length_le_of_nodup hnodup fun j hj => Nat.lt_of_le_of_lt (le_of_mem_preorder hj) hi

/-- Where nobody lists a node twice, indices fit if the nodes can be counted with 32 bits. -/
theorem Numbered.indexFits (h : F.Numbered) (honce : F.ListsOnce) (hsize : F.nodes.size < 2 ^ 32)
    (i : NodeId) : F.IndexFits i := by
  intro k hk
  obtain ⟨t, ht, rfl⟩ := Option.map_eq_some_iff.1 hk
  obtain ⟨r, hr, hmem, hindex⟩ := (h.touch i).placed i t (place?_eq_some_iff.1 ht).2
  have hlt : r < F.origin.nodes.size := by
    rw [size_origin, ← F.nodes_touch i]
    exact (h.touch i).lt_size r hr.mem
  have hlast := lastIdxOf_lt_length hmem
  have hlength := length_preorder_le (listsOnce_origin honce) hlt
  rw [size_origin] at hlength
  rw [preorder_of_nodes_eq (origin_nodes_eq (F.nodes_touch i))] at hindex hlast
  omega

/-- In a tree that did not lose its parent indices fit if it is numbered in no more steps than 32
    bits can count. -/
theorem Numbered.indexFits_of_length (h : F.Numbered) (halive : F.alive r = true)
    (howner : F.owner r = none) (hlength : (F.preorder r).length ≤ 2 ^ 32) (hi : F.root i = r) :
    F.IndexFits i := by
  intro k hk
  subst hi
  obtain ⟨t, ht, rfl⟩ := Option.map_eq_some_iff.1 hk
  have hkeyed := (place?_eq_some_iff.1 ht).1
  have hkeeps := Keeps.touch F i
  rw [backend_touch] at hkeyed
  obtain ⟨n, q, -, hr, hplaces⟩ := (h.touch i).exists_places (place?_eq_some_iff.1 ht).1
    (root_mem_numbered_touch hkeyed (alive_of_root halive)) (by rwa [hkeeps.alive_eq])
  have hstart := start_eq_of_owner hr (by rwa [owner_of_nodes_eq hkeeps.nodes])
  subst hstart
  obtain ⟨hmem, hplace⟩ := hplaces i (hkeeps.root_eq i)
  have hsame : (F.touch i).origin.preorder (F.root i) = F.preorder (F.root i) := by
    rw [preorder_of_nodes_eq (origin_nodes_eq hkeeps.nodes), preorder_origin halive]
  rw [hsame] at hmem hplace
  obtain rfl := Option.some.inj (hplace.symm.trans ht)
  exact Nat.lt_of_lt_of_le (lastIdxOf_lt_length hmem) hlength

/-- The keys of trees tell them apart. -/
def TellsTreesApart (F : Forest) : Prop :=
  ∀ a b, F.alive a = true → F.alive b = true →
    ∃ s t, (F.touch a).treeKey? a = some s ∧ ((F.touch a).touch b).treeKey? b = some t ∧
      (s = t ↔ F.root a = F.root b)

/-- Two texts that were numbered each for itself are attached to a document, which is numbered and
    goes: they are two trees again, have the key of the document still, and are not told apart. -/
theorem key_stays_behind_document :
    let F := (empty .simple).after [.add (.textOf "x"), .ask [0], .add (.textOf "w"), .ask [1],
      .add (NodeContent.document.withMembers [] [] [0, 1]), .ask [2], .drop 2]
    (F.root 0 ≠ F.root 1 ∧ (F.touch 0).treeKey? 0 = some 3 ∧
      ((F.touch 0).touch 1).treeKey? 1 = some 3) ∧ ¬F.TellsTreesApart := by
  intro F
  have hkeys : F.root 0 ≠ F.root 1 ∧ (F.touch 0).treeKey? 0 = some 3 ∧
      ((F.touch 0).touch 1).treeKey? 1 = some 3 := by decide +kernel
  obtain ⟨hroot, hleft, hright⟩ := hkeys
  refine ⟨⟨hroot, hleft, hright⟩, fun hapart => hroot ?_⟩
  obtain ⟨s, t, hs, ht, hiff⟩ := hapart 0 1 (by decide +kernel) (by decide +kernel)
  rw [hleft] at hs
  rw [hright] at ht
  exact hiff.1 ((Option.some.inj hs).symm.trans (Option.some.inj ht))

end Forest

end XPathData
