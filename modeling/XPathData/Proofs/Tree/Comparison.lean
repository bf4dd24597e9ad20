import XPathData.Proofs.Tree.Sorting

/-! # Comparing two nodes

  Two nodes are compared by the ranks of their trees and then in their tree. A tree has its key
  as rank, or the moment when the comparison met it. So the answers of many comparisons, made
  one after the other while trees are numbered on the way, come from one strict total order of
  all nodes. There are two exceptions. Of two trees that show no key, the node that is named first
  comes first, in whatever order the nodes are named. Two trees that have one key from a node that
  is gone are told apart by the keys of their nodes, and where these are hidden, by nothing.

  * `Forest.apart`, `Forest.tied` — trees between which there is no order
  * `Forest.comparePair_eq` — one comparison compares words of numbers
  * `Forest.StrictlyOrders` — a strict total order of the nodes of a forest
  * `Forest.comparisons_agree` — all comparisons answer by one order
-/

namespace XPathData.Forest

variable {F G H : Forest} {keys : Keys} {a b i j : NodeId} {s : TreePlace}

/-! ### Asking for what is compared -/

namespace Keeps

theorem askTree (F : Forest) (keys : Keys) (i : NodeId) : F.Keeps (F.askTree keys i) := by
  unfold Forest.askTree
  split
  · exact touch F i
  · exact refl F

theorem askPair (F : Forest) (keys : Keys) (a b : NodeId) : F.Keeps (F.askPair keys a b) := by
  have htrees := (askTree F keys a).trans (askTree (F.askTree keys a) keys b)
  unfold Forest.askPair
  dsimp only
  split
  · exact htrees.trans ((touch _ a).trans (touch _ b))
  · exact htrees

end Keeps

/-! ### Keys that are shown -/

/-- The tree of a node has a key, and it is shown. -/
def showsTree (F : Forest) (keys : Keys) (i : NodeId) : Bool :=
  F.backend.keyed && keys.tree (F.root i)

/-- A node has a key, and it is shown. -/
def showsNode (F : Forest) (keys : Keys) (i : NodeId) : Bool :=
  F.backend.keyed && keys.node (F.root i)

theorem showsTree_of_root (hroot : F.root a = F.root b) :
    F.showsTree keys a = F.showsTree keys b := by
  rw [showsTree, showsTree, hroot]

theorem showsNode_of_root (hroot : F.root a = F.root b) :
    F.showsNode keys a = F.showsNode keys b := by
  rw [showsNode, showsNode, hroot]

theorem Keeps.showsTree_eq (h : F.Keeps H) (i : NodeId) :
    H.showsTree keys i = F.showsTree keys i := by
  rw [showsTree, showsTree, h.backend, h.root_eq]

theorem Keeps.showsNode_eq (h : F.Keeps H) (i : NodeId) :
    H.showsNode keys i = F.showsNode keys i := by
  rw [showsNode, showsNode, h.backend, h.root_eq]

/-- A node that was asked lies in a numbered tree from then on. -/
theorem Keeps.root_mem_of_touch (h : (F.touch i).Keeps H) (hkeyed : F.backend.keyed = true)
    (hi : F.alive i = true) : H.root i ∈ H.numbered := by
  rw [h.root_eq, root_of_nodes_eq (F.nodes_touch i)]
  exact h.mem_numbered (root_mem_numbered_touch hkeyed hi)

/-- Asking for the keys of trees numbers those that are shown. -/
theorem Keeps.root_mem_of_askTree (h : (F.askTree keys i).Keeps H)
    (hshown : F.showsTree keys i = true) (hi : F.alive i = true) : H.root i ∈ H.numbered := by
  obtain ⟨hkeyed, htree⟩ := Bool.and_eq_true_iff.1 hshown
  rw [Forest.askTree, if_pos htree] at h
  exact h.root_mem_of_touch hkeyed hi

/-- The trees whose keys a comparison looks at are numbered, and these have the bits that they
    need. -/
structure PairAsked (F : Forest) (keys : Keys) (a b : NodeId) : Prop where
  numbered : F.Numbered
  alive_left : F.alive a = true
  alive_right : F.alive b = true
  fits_left : F.IndexFits a
  fits_right : F.IndexFits b
  left : F.showsTree keys a = true → F.root a ∈ F.numbered
  right : F.showsTree keys b = true → F.root b ∈ F.numbered
  inTree : F.root a = F.root b → F.showsNode keys a = true → F.root a ∈ F.numbered

theorem Numbered.pairAsked (h : F.Numbered) (keys : Keys) (ha : F.alive a = true)
    (hb : F.alive b = true) (hfits : F.IndexFits a) (hfits' : F.IndexFits b) :
    (F.askPair keys a b).PairAsked keys a b := by
  have hpair := Keeps.askPair F keys a b
  -- What becomes of the forest behind both questions for trees.
  have hbehind : ((F.askTree keys a).askTree keys b).Keeps (F.askPair keys a b) := by
    unfold Forest.askPair
    dsimp only
    split
    · exact (Keeps.touch _ a).trans (Keeps.touch _ b)
    · exact Keeps.refl _
  refine ⟨hpair.numbered h, by rwa [hpair.alive_eq], by rwa [hpair.alive_eq],
    hpair.indexFits ha hfits, hpair.indexFits hb hfits', fun hshown => ?_, fun hshown => ?_,
    fun hroot hshown => ?_⟩
  · rw [hpair.showsTree_eq] at hshown
    exact ((Keeps.askTree _ keys b).trans hbehind).root_mem_of_askTree hshown ha
  · have hfirst := Keeps.askTree F keys a
    rw [hpair.showsTree_eq, ← hfirst.showsTree_eq] at hshown
    exact hbehind.root_mem_of_askTree hshown (by rwa [hfirst.alive_eq])
  · have htrees := (Keeps.askTree F keys a).trans (Keeps.askTree (F.askTree keys a) keys b)
    rw [hpair.root_eq, hpair.root_eq] at hroot
    rw [hpair.showsNode_eq] at hshown
    obtain ⟨hkeyed, hnode⟩ := Bool.and_eq_true_iff.1 hshown
    have hasked : F.askPair keys a b =
        (((F.askTree keys a).askTree keys b).touch a).touch b := by
      unfold Forest.askPair
      exact if_pos ⟨hroot, hnode⟩
    rw [hasked]
    exact (Keeps.touch _ b).root_mem_of_touch (by rwa [htrees.backend]) (by rwa [htrees.alive_eq])

/-! ### Trees of one number -/

/-- The trees of two nodes were numbered, and have one number. -/
def SharesNumber (F : Forest) (a b : NodeId) : Prop :=
  F.root a ∈ F.numbered ∧ F.root b ∈ F.numbered ∧ F.treeKey? a = F.treeKey? b

theorem treeKey?_touch (hi : F.alive i = true) (hroot : F.root i ∈ F.numbered) (j : NodeId) :
    (F.touch j).treeKey? i = F.treeKey? i := by
  rw [treeKey?, place?_touch (lt_size_of_alive hi) hroot, treeKey?]

theorem Numbered.tree_le (h : F.Numbered) (hi : F.place? i = some s) :
    s.tree ≤ F.numbered.length := by
  obtain ⟨r, ⟨hpos, hr⟩, -⟩ := h.placed i s (place?_eq_some_iff.1 hi).2
  have hlt := (List.getElem?_eq_some_iff.1 hr).1
  omega

/-- A tree that is numbered now has a number of its own. -/
theorem Numbered.treeKey?_ne_of_new (h : F.Numbered) (hkeyed : F.backend.keyed = true)
    (ha : F.alive a = true) (hold : F.root a ∉ F.numbered)
    (hnew : F.root a ∈ (F.touch j).numbered) (hb : F.alive b = true)
    (hroot : F.root b ∈ F.numbered) : (F.touch j).treeKey? a ≠ (F.touch j).treeKey? b := by
  obtain ⟨hj, hsame⟩ := alive_of_new hnew hold
  obtain ⟨t, ht⟩ := h.exists_placedAt hkeyed hb hroot
  have hle := h.tree_le ht.place
  rw [treeKey?_touch hb hroot, ← touch_eq_touch ha hj hsame, treeKey?, treeKey?, ht.place,
    place?_touch_of_not_mem hkeyed ha hold]
  simp only [Option.map_some, ne_eq, Option.some.injEq]
  omega

theorem Numbered.sharesNumber_touch (h : F.Numbered) (hkeyed : F.backend.keyed = true)
    (ha : F.alive a = true) (hb : F.alive b = true) (hroot : F.root a ≠ F.root b) (j : NodeId) :
    (F.touch j).SharesNumber a b ↔ F.SharesNumber a b := by
  have hnodes := F.nodes_touch j
  unfold SharesNumber
  rw [root_of_nodes_eq hnodes, root_of_nodes_eq hnodes]
  constructor
  · rintro ⟨hmem, hmem', hkey⟩
    by_cases hold : F.root a ∈ F.numbered
    · by_cases hold' : F.root b ∈ F.numbered
      · rw [treeKey?_touch ha hold, treeKey?_touch hb hold'] at hkey
        exact ⟨hold, hold', hkey⟩
      · exact absurd hkey.symm (h.treeKey?_ne_of_new hkeyed hb hold' hmem' ha hold)
    · by_cases hold' : F.root b ∈ F.numbered
      · exact absurd hkey (h.treeKey?_ne_of_new hkeyed ha hold hmem hb hold')
      · -- No more than one tree is numbered at a time.
        have hsame := (alive_of_new hmem hold).2.trans (alive_of_new hmem' hold').2.symm
        exact absurd hsame hroot
  · rintro ⟨hmem, hmem', hkey⟩
    rw [treeKey?_touch ha hmem, treeKey?_touch hb hmem']
    exact ⟨mem_numbered_touch hmem j, mem_numbered_touch hmem' j, hkey⟩

/-- No two trees come to share a number by being asked. -/
theorem Keeps.sharesNumber_iff (h : F.Keeps H) (hF : F.Numbered) (hkeyed : F.backend.keyed = true)
    (ha : F.alive a = true) (hb : F.alive b = true) (hroot : F.root a ≠ F.root b) :
    H.SharesNumber a b ↔ F.SharesNumber a b := by
  obtain ⟨l, rfl⟩ := h
  induction l generalizing F with
  | nil => exact Iff.rfl
  | cons j l ih =>
    have hstep := Keeps.touch F j
    rw [List.foldl_cons, ih (hF.touch j) (by rwa [backend_touch]) (by rwa [hstep.alive_eq])
      (by rwa [hstep.alive_eq]) (by rwa [hstep.root_eq, hstep.root_eq])]
    exact hF.sharesNumber_touch hkeyed ha hb hroot j

theorem Numbered.sameTree_iff (h : F.Numbered) (hkeyed : F.backend.keyed = true)
    (ha : F.alive a = true) (hb : F.alive b = true) (hroot : F.root a ≠ F.root b) :
    (F.sameTree a b).2 = true ↔ F.SharesNumber a b := by
  have hfirst := Keeps.touch F a
  have hsecond := Keeps.touch (F.touch a) b
  have hmem := hsecond.root_mem_of_touch hkeyed ha
  have hmem' := (Keeps.refl _).root_mem_of_touch (F := F.touch a) (i := b)
    (by rwa [hfirst.backend]) (by rwa [hfirst.alive_eq])
  rw [← (hfirst.trans hsecond).sharesNumber_iff h hkeyed ha hb hroot, SharesNumber,
    and_iff_right hmem, and_iff_right hmem', sameTree]
  exact beq_iff_eq

theorem Keeps.sameTree_eq (h : F.Keeps H) (hF : F.Numbered) (hkeyed : F.backend.keyed = true)
    (ha : F.alive a = true) (hb : F.alive b = true) (hroot : F.root a ≠ F.root b) :
    (H.sameTree a b).2 = (F.sameTree a b).2 := by
  rw [Bool.eq_iff_iff, hF.sameTree_iff hkeyed ha hb hroot,
    (h.numbered hF).sameTree_iff (by rwa [h.backend]) (by rwa [h.alive_eq]) (by rwa [h.alive_eq])
      (by rwa [h.root_eq, h.root_eq])]
  exact h.sharesNumber_iff hF hkeyed ha hb hroot

/-! ### Trees without an order -/

/-- Two nodes lie in different trees that both show no key. -/
def apart (F : Forest) (keys : Keys) (a b : NodeId) : Bool :=
  F.root a != F.root b && !F.showsTree keys a && !F.showsTree keys b

/-- Two nodes lie in different trees that show one key, but not both the keys of their nodes. -/
def tied (F : Forest) (keys : Keys) (a b : NodeId) : Bool :=
  F.root a != F.root b && F.showsTree keys a && F.showsTree keys b && (F.sameTree a b).2 &&
    !(F.showsNode keys a && F.showsNode keys b)

theorem apart_of_root (hroot : F.root a = F.root b) : F.apart keys a b = false := by
  simp [apart, hroot]

theorem tied_of_root (hroot : F.root a = F.root b) : F.tied keys a b = false := by
  simp [tied, hroot]

theorem Keeps.apart_eq (h : F.Keeps H) (keys : Keys) (a b : NodeId) :
    H.apart keys a b = F.apart keys a b := by
  rw [apart, apart, h.root_eq, h.root_eq, h.showsTree_eq, h.showsTree_eq]

theorem Keeps.tied_eq (h : F.Keeps H) (hF : F.Numbered) (ha : F.alive a = true)
    (hb : F.alive b = true) : H.tied keys a b = F.tied keys a b := by
  by_cases hroot : F.root a = F.root b
  · rw [tied_of_root hroot, tied_of_root (by rwa [h.root_eq, h.root_eq])]
  rw [tied, tied, h.root_eq, h.root_eq, h.showsTree_eq, h.showsTree_eq, h.showsNode_eq,
    h.showsNode_eq]
  cases hshown : F.showsTree keys a with
  | true => rw [h.sameTree_eq hF (Bool.and_eq_true_iff.1 hshown).1 ha hb hroot]
  | false => simp

/-! ### What nodes are compared by -/

/-- The place of a node; it counts only in a numbered tree. -/
def placeOf (F : Forest) (i : NodeId) : TreePlace := (F.place? i).getD ⟨0, 0⟩

/-- The rank of a tree: its number where that is shown, and else its root, behind all numbers. -/
def treeWord (F : Forest) (keys : Keys) (i : NodeId) : Nat × Nat :=
  if F.showsTree keys i then (0, (F.placeOf i).tree) else (1, F.root i)

/-- The place of a node among those of one rank: its number where that is shown, and else its root
    and its address, behind all numbers. -/
def nodeWord (F : Forest) (keys : Keys) (i : NodeId) : List Nat :=
  if F.showsNode keys i then [0, (F.placeOf i).index] else 1 :: F.root i :: F.address i

/-- The rank of the tree of a node, and then the place of the node. -/
def orderWord (F : Forest) (keys : Keys) (i : NodeId) : List Nat :=
  (F.treeWord keys i).1 :: (F.treeWord keys i).2 :: F.nodeWord keys i

/-- The place of a node in a numbered tree. -/
theorem Numbered.placedAt (h : F.Numbered) (hkeyed : F.backend.keyed = true)
    (hi : F.alive i = true) (hroot : F.root i ∈ F.numbered) : F.PlacedAt i (F.placeOf i) := by
  obtain ⟨t, ht⟩ := h.exists_placedAt hkeyed hi hroot
  rwa [placeOf, ht.place]

theorem Keeps.treeWord_eq (h : F.Keeps H) (hi : i < F.nodes.size)
    (hroot : F.showsTree keys i = true → F.root i ∈ F.numbered) :
    H.treeWord keys i = F.treeWord keys i := by
  unfold treeWord
  rw [h.showsTree_eq, h.root_eq]
  split
  · next hshown => rw [placeOf, placeOf, h.place hi (hroot hshown)]
  · rfl

theorem Keeps.nodeWord_eq (h : F.Keeps H) (hi : i < F.nodes.size)
    (hroot : F.showsNode keys i = true → F.root i ∈ F.numbered) :
    H.nodeWord keys i = F.nodeWord keys i := by
  unfold nodeWord
  rw [h.showsNode_eq, h.address_eq, h.root_eq]
  split
  · next hshown => rw [placeOf, placeOf, h.place hi (hroot hshown)]
  · rfl

/-- Different trees have one rank if they show one number. -/
theorem treeWord_eq_iff (hroot : F.root a ≠ F.root b) :
    F.treeWord keys a = F.treeWord keys b ↔ F.showsTree keys a = true ∧
      F.showsTree keys b = true ∧ (F.placeOf a).tree = (F.placeOf b).tree := by
  unfold treeWord
  cases F.showsTree keys a <;> cases F.showsTree keys b <;> simp [hroot]

theorem showsTree_of_treeWord (hword : F.treeWord keys a = F.treeWord keys b) :
    F.showsTree keys a = F.showsTree keys b := by
  by_cases hroot : F.root a = F.root b
  · exact showsTree_of_root hroot
  · obtain ⟨hshown, hshown', -⟩ := (treeWord_eq_iff hroot).1 hword
    rw [hshown, hshown']

theorem apart_of_treeWord (hword : F.treeWord keys a = F.treeWord keys b) :
    F.apart keys a b = false := by
  by_cases hroot : F.root a = F.root b
  · exact apart_of_root hroot
  · obtain ⟨hshown, -, -⟩ := (treeWord_eq_iff hroot).1 hword
    simp [apart, hshown]

/-- Numbered trees of one rank have one number. -/
theorem Numbered.tree_eq_of_treeWord (h : F.Numbered) (ha : F.PlacedAt a (F.placeOf a))
    (hb : F.PlacedAt b (F.placeOf b)) (hword : F.treeWord keys a = F.treeWord keys b) :
    (F.placeOf a).tree = (F.placeOf b).tree := by
  by_cases hroot : F.root a = F.root b
  · exact h.tree_eq_of_root ha hb hroot
  · exact ((treeWord_eq_iff hroot).1 hword).2.2

namespace PairAsked

theorem placedAt_left (h : F.PairAsked keys a b) (hshown : F.showsTree keys a = true) :
    F.PlacedAt a (F.placeOf a) :=
  h.numbered.placedAt (Bool.and_eq_true_iff.1 hshown).1 h.alive_left (h.left hshown)

theorem placedAt_right (h : F.PairAsked keys a b) (hshown : F.showsTree keys b = true) :
    F.PlacedAt b (F.placeOf b) :=
  h.numbered.placedAt (Bool.and_eq_true_iff.1 hshown).1 h.alive_right (h.right hshown)

/-- Nodes of one tree have one rank. -/
theorem treeWord_of_root (h : F.PairAsked keys a b) (hroot : F.root a = F.root b) :
    F.treeWord keys a = F.treeWord keys b := by
  unfold treeWord
  rw [showsTree_of_root hroot, hroot]
  split
  · next hshown =>
    rw [h.numbered.tree_eq_of_root (h.placedAt_left (showsTree_of_root hroot ▸ hshown))
      (h.placedAt_right hshown) hroot]
  · rfl

/-- The keys that are looked at between trees of one rank are there. -/
theorem mem_numbered (h : F.PairAsked keys a b)
    (hword : F.treeWord keys a = F.treeWord keys b) :
    (F.showsNode keys a = true → F.root a ∈ F.numbered) ∧
      (F.showsNode keys b = true → F.root b ∈ F.numbered) := by
  by_cases hroot : F.root a = F.root b
  · rw [showsNode_of_root hroot.symm, ← hroot]
    exact ⟨h.inTree hroot, h.inTree hroot⟩
  · obtain ⟨hshown, hshown', -⟩ := (treeWord_eq_iff hroot).1 hword
    exact ⟨fun _ => h.left hshown, fun _ => h.right hshown'⟩

/-- Trees that show their keys have the same key if they have the same number. -/
theorem sameTree_eq (h : F.PairAsked keys a b) (hshown : F.showsTree keys a = true)
    (hshown' : F.showsTree keys b = true) :
    (F.sameTree a b).2 = ((F.placeOf a).tree == (F.placeOf b).tree) := by
  rw [sameTree, touch_of_mem (h.left hshown), touch_of_mem (h.right hshown'), treeKey?, treeKey?,
    (h.placedAt_left hshown).place, (h.placedAt_right hshown').place]
  rfl

theorem tied_of_treeWord (h : F.PairAsked keys a b)
    (hword : F.treeWord keys a = F.treeWord keys b) : F.tied keys a b =
      (F.root a != F.root b && !(F.showsNode keys a && F.showsNode keys b)) := by
  by_cases hroot : F.root a = F.root b
  · simp [tied, hroot]
  · obtain ⟨hshown, hshown', htree⟩ := (treeWord_eq_iff hroot).1 hword
    simp [tied, hshown, hshown', h.sameTree_eq hshown hshown', htree]

theorem tied_of_ne (h : F.PairAsked keys a b)
    (hword : F.treeWord keys a ≠ F.treeWord keys b) : F.tied keys a b = false := by
  have hroot : F.root a ≠ F.root b := mt h.treeWord_of_root hword
  rw [Ne, treeWord_eq_iff hroot] at hword
  cases hshown : F.showsTree keys a
  · simp [tied, hshown]
  cases hshown' : F.showsTree keys b
  · simp [tied, hshown']
  have htree : (F.placeOf a).tree ≠ (F.placeOf b).tree := fun heq => hword ⟨hshown, hshown', heq⟩
  simp [tied, h.sameTree_eq hshown hshown', htree]

end PairAsked

/-! ### One comparison -/

/-- A tree that shows its key is ranked by it in a comparison, and any other one by when it was
    met. -/
theorem rankShown_eq (met : List NodeId)
    (hplace : F.showsTree keys i = true → F.PlacedAt i (F.placeOf i)) :
    F.rankShown keys met i =
      if F.showsTree keys i then F.treeWord keys i else (1, met.idxOf (F.root i)) := by
  unfold rankShown
  by_cases hkeyed : F.backend.keyed = true
  · by_cases htree : keys.tree (F.root i) = true
    · have hshown : F.showsTree keys i = true := by rw [showsTree, hkeyed, htree]; rfl
      rw [if_pos htree, if_pos hshown, treeRank_of_place (hplace hshown).place, treeWord,
        if_pos hshown]
    · have hhidden : ¬F.showsTree keys i = true := by simp [showsTree, htree]
      rw [if_neg htree, if_neg hhidden]
  · have hhidden : ¬F.showsTree keys i = true := by simp [showsTree, hkeyed]
    rw [if_neg hhidden, treeRank_of_none (place?_eq_none hkeyed i), ite_self]

/-- Where keys are hidden, nodes are compared by ancestry. -/
theorem compareShown_of_hidden
    (hhidden : (F.showsNode keys a && F.showsNode keys b) = false) :
    F.compareShown keys a b = F.compareByAncestry a b := by
  unfold compareShown
  split
  · next hnode =>
    -- Without keys both comparisons of the backend are the one by ancestry.
    have hkeyed : ¬F.backend.keyed = true := by
      intro hkeyed
      simp [showsNode, hkeyed, hnode.1, hnode.2] at hhidden
    exact compareNumbered_of_none (place?_eq_none hkeyed a)
  · rfl

namespace PairAsked

/-- Keys of nodes compare as their places do. -/
theorem compareShown_of_shown (h : F.PairAsked keys a b)
    (hword : F.treeWord keys a = F.treeWord keys b) (hshown : F.showsNode keys a = true)
    (hshown' : F.showsNode keys b = true) : F.compareShown keys a b =
      .ok (compare (F.placeOf a).index (F.placeOf b).index) := by
  obtain ⟨hkeyed, hnode⟩ := Bool.and_eq_true_iff.1 hshown
  obtain ⟨-, hnode'⟩ := Bool.and_eq_true_iff.1 hshown'
  obtain ⟨hmem, hmem'⟩ := h.mem_numbered hword
  have ha := h.numbered.placedAt hkeyed h.alive_left (hmem hshown)
  have hb := h.numbered.placedAt hkeyed h.alive_right (hmem' hshown')
  rw [compareShown, if_pos ⟨hnode, hnode'⟩]
  exact compareNumbered_of_fits ha hb (h.numbered.tree_eq_of_treeWord ha hb hword) h.fits_left
    h.fits_right

/-- Nodes of one rank are compared by their words, unless nothing tells their trees apart. -/
theorem compareShown_eq (h : F.PairAsked keys a b)
    (hword : F.treeWord keys a = F.treeWord keys b) : F.compareShown keys a b =
      if F.tied keys a b then .error noCommonRoot
      else .ok (compare (F.nodeWord keys a) (F.nodeWord keys b)) := by
  rw [h.tied_of_treeWord hword]
  unfold nodeWord
  by_cases hroot : F.root a = F.root b
  · have hsame : F.showsNode keys b = F.showsNode keys a := showsNode_of_root hroot.symm
    cases hshown : F.showsNode keys a with
    | true =>
      rw [h.compareShown_of_shown hword hshown (hsame.trans hshown)]
      simp [hroot, hsame, hshown, List.compare_cons_cons]
    | false =>
      rw [compareShown_of_hidden (by rw [hshown, Bool.false_and]), compareByAncestry_eq hroot]
      simp [hroot, hsame, hshown, List.compare_cons_cons]
  · cases hshown : F.showsNode keys a && F.showsNode keys b with
    | true =>
      obtain ⟨ha, hb⟩ := Bool.and_eq_true_iff.1 hshown
      rw [h.compareShown_of_shown hword ha hb]
      simp [ha, hb, List.compare_cons_cons]
    | false =>
      rw [compareShown_of_hidden hshown, compareByAncestry_of_ne hroot]
      simp [hroot]

/-- Trees of one word have one rank. -/
theorem rankShown_of_treeWord (h : F.PairAsked keys a b)
    (hword : F.treeWord keys a = F.treeWord keys b) (met : List NodeId) :
    F.rankShown keys met a = F.rankShown keys met b := by
  rw [rankShown_eq met h.placedAt_left, rankShown_eq met h.placedAt_right,
    showsTree_of_treeWord hword, hword]
  cases hshown : F.showsTree keys b with
  | true => rfl
  | false =>
    -- A tree that shows no key has its root as word.
    have hhidden : F.showsTree keys a = false := (showsTree_of_treeWord hword).trans hshown
    have hroot : F.root a = F.root b := by simpa [treeWord, hshown, hhidden] using hword
    rw [hroot]

end PairAsked

/-- Words with different first parts are ordered by these. -/
theorem then_of_ne {r s : Nat × Nat} (h : r ≠ s) (o : Ordering) :
    ((compare r.1 s.1).then (compare r.2 s.2)).then o =
      (compare r.1 s.1).then (compare r.2 s.2) := by
  have hne : (compare r.1 s.1).then (compare r.2 s.2) ≠ .eq := by
    intro heq
    obtain ⟨hfirst, hsecond⟩ := Ordering.then_eq_eq.1 heq
    exact h (Prod.ext (Nat.compare_eq_eq.1 hfirst) (Nat.compare_eq_eq.1 hsecond))
  revert hne
  cases (compare r.1 s.1).then (compare r.2 s.2) <;> simp

theorem compare_orderWord (F : Forest) (keys : Keys) (a b : NodeId) :
    compare (F.orderWord keys a) (F.orderWord keys b) =
      ((compare (F.treeWord keys a).1 (F.treeWord keys b).1).then
        (compare (F.treeWord keys a).2 (F.treeWord keys b).2)).then
        (compare (F.nodeWord keys a) (F.nodeWord keys b)) := by
  rw [orderWord, orderWord, List.compare_cons_cons, List.compare_cons_cons, Ordering.then_assoc]

/-- Trees of different words are compared by these; where both show no key, the one that is met
    first comes first. The places of the nodes do not count. -/
theorem PairAsked.compare_trees (h : F.PairAsked keys a b)
    (hword : F.treeWord keys a ≠ F.treeWord keys b) (o o' : Ordering) :
    let r := F.rankShown keys (F.rootsMet [a, b]) a
    let s := F.rankShown keys (F.rootsMet [a, b]) b
    ((compare r.1 s.1).then (compare r.2 s.2)).then o =
      if F.apart keys a b then .lt
      else ((compare (F.treeWord keys a).1 (F.treeWord keys b).1).then
        (compare (F.treeWord keys a).2 (F.treeWord keys b).2)).then o' := by
  intro r s
  have hr := rankShown_eq (F.rootsMet [a, b]) h.placedAt_left
  have hs := rankShown_eq (F.rootsMet [a, b]) h.placedAt_right
  have hroot : F.root a ≠ F.root b := mt h.treeWord_of_root hword
  have hless : compare 0 1 = Ordering.lt := rfl
  have hgreater : compare 1 0 = Ordering.gt := rfl
  simp only [r, s, hr, hs]
  cases hshown : F.showsTree keys a with
  | true =>
    cases hshown' : F.showsTree keys b with
    | true => simp [apart, hshown, then_of_ne hword]
    | false => simp [apart, hshown, hshown', treeWord, hless]
  | false =>
    cases hshown' : F.showsTree keys b with
    | true => simp [apart, hshown, hshown', treeWord, hgreater]
    | false =>
      have hmet : F.rootsMet [a, b] = [F.root a, F.root b] := by
        simp [rootsMet, List.eraseDups_cons, Ne.symm hroot]
      simp [apart, hshown, hshown', hroot, hmet, hless]

/-- A comparison compares words, whatever was or will be asked besides. -/
theorem comparePair_eq (hF : F.Numbered) (ha : F.alive a = true) (hb : F.alive b = true)
    (hfits : F.IndexFits a) (hfits' : F.IndexFits b) (hlater : (F.askPair keys a b).Keeps H) :
    (F.comparePair keys a b).2 =
      if F.apart keys a b then .lt
      else if F.tied keys a b then .eq
      else compare (H.orderWord keys a) (H.orderWord keys b) := by
  have hasked := hF.pairAsked keys ha hb hfits hfits'
  rw [← (Keeps.askPair F keys a b).apart_eq, ← (Keeps.askPair F keys a b).tied_eq hF ha hb]
  unfold comparePair
  dsimp only
  generalize F.askPair keys a b = G at hasked hlater
  have hlt := lt_size_of_alive hasked.alive_left
  have hlt' := lt_size_of_alive hasked.alive_right
  rw [compare_orderWord, hlater.treeWord_eq hlt hasked.left, hlater.treeWord_eq hlt' hasked.right]
  by_cases hword : G.treeWord keys a = G.treeWord keys b
  · -- The ranks are equal, so both sides come down to the places of the nodes.
    obtain ⟨hmem, hmem'⟩ := hasked.mem_numbered hword
    rw [hasked.rankShown_of_treeWord hword, hasked.compareShown_eq hword,
      hlater.nodeWord_eq hlt hmem, hlater.nodeWord_eq hlt' hmem', apart_of_treeWord hword, hword]
    cases G.tied keys a b <;> simp
  · rw [hasked.tied_of_ne hword]
    exact hasked.compare_trees hword _ _

/-! ### Many comparisons -/

/-- Two nodes with one word are one node. -/
theorem Asked.orderWord_inj (h : F.Asked [a, b])
    (hword : F.orderWord keys a = F.orderWord keys b) : a = b := by
  have hplaced (hkeyed : F.backend.keyed = true) {i : NodeId} (hi : i ∈ [a, b]) :
      F.PlacedAt i (F.placeOf i) :=
    h.numbered.placedAt hkeyed (h.alive i hi) (h.asked hkeyed i hi)
  have hleft : a ∈ [a, b] := List.mem_cons_self
  have hright : b ∈ [a, b] := List.mem_cons_of_mem a List.mem_cons_self
  obtain ⟨hfirst, hrest⟩ := List.cons.inj hword
  obtain ⟨hsecond, hnode⟩ := List.cons.inj hrest
  have htree : F.treeWord keys a = F.treeWord keys b := Prod.ext hfirst hsecond
  unfold nodeWord at hnode
  by_cases hshown : F.showsNode keys a = true
  · rw [if_pos hshown] at hnode
    by_cases hshown' : F.showsNode keys b = true
    · -- Both keys are of one numbering.
      rw [if_pos hshown'] at hnode
      have ha := hplaced (Bool.and_eq_true_iff.1 hshown).1 hleft
      have hb := hplaced (Bool.and_eq_true_iff.1 hshown).1 hright
      have hnumber := h.numbered.tree_eq_of_treeWord ha hb htree
      have hindex : (F.placeOf a).index = (F.placeOf b).index := by simpa using hnode
      exact h.numbered.place_inj ha.place hb.place hnumber hindex
    · rw [if_neg hshown'] at hnode
      simp at hnode
  · rw [if_neg hshown] at hnode
    by_cases hshown' : F.showsNode keys b = true
    · rw [if_pos hshown'] at hnode
      simp at hnode
    · rw [if_neg hshown'] at hnode
      obtain ⟨hroot, haddress⟩ := List.cons.inj (List.cons.inj hnode).2
      exact address_inj hroot haddress

/-- A relation is a strict total order of the nodes that are there. -/
structure StrictlyOrders (F : Forest) (before : NodeId → NodeId → Bool) : Prop where
  irrefl : ∀ a, F.alive a = true → before a a = false
  /-- Of two different nodes exactly one comes before the other. -/
  total : ∀ a b, F.alive a = true → F.alive b = true → a ≠ b → before a b = !before b a
  trans : ∀ a b c, F.alive a = true → F.alive b = true → F.alive c = true →
    before a b = true → before b c = true → before a c = true

/-- Words that tell nodes apart order them. -/
theorem strictlyOrders_of_words {word : NodeId → List Nat}
    (hinj : ∀ a b, F.alive a = true → F.alive b = true → word a = word b → a = b) :
    F.StrictlyOrders fun a b => compare (word a) (word b) == .lt where
  irrefl a _ := by simp
  total a b ha hb hab := by
    have hne : compare (word a) (word b) ≠ .eq := fun heq =>
      hab (hinj a b ha hb (Std.LawfulEqCmp.eq_of_compare heq))
    have hswap : compare (word b) (word a) = (compare (word a) (word b)).swap :=
      Std.OrientedCmp.eq_swap
    rw [hswap]
    revert hne
    cases compare (word a) (word b) <;> simp
  trans a b c _ _ _ hab hbc := by
    simp only [beq_iff_eq] at hab hbc ⊢
    exact Std.TransCmp.lt_trans hab hbc

/-- Questions about nodes. -/
inductive Question where
  | precedes (a b : NodeId)
  | follows (a b : NodeId)
  /-- Keys of nodes are asked for, for whatever purpose. -/
  | ask (l : List NodeId)

/-- The nodes that a question compares. -/
def Question.nodes : Question → List NodeId
  | precedes a b | follows a b => [a, b]
  | ask _ => []

/-- The answer to a question, if it has one, and the forest behind it. -/
def pose (F : Forest) (keys : Keys) : Question → Forest × Option Bool
  | .precedes a b => ((F.ordersAs keys .lt a b).1, some (F.ordersAs keys .lt a b).2)
  | .follows a b => ((F.ordersAs keys .gt a b).1, some (F.ordersAs keys .gt a b).2)
  | .ask l => (l.foldl touch F, none)

/-- The answers to questions that are posed one after the other. -/
def answers (F : Forest) (keys : Keys) : List Question → List (Option Bool)
  | [] => []
  | q :: qs => (F.pose keys q).2 :: (F.pose keys q).1.answers keys qs

/-- The forest behind questions that are posed one after the other. -/
def behind (F : Forest) (keys : Keys) (qs : List Question) : Forest :=
  qs.foldl (fun F q => (F.pose keys q).1) F

/-- The answer that an order of nodes gives. Of two nodes in different trees that show no keys,
    the one that is named first precedes, and none follows. Of two nodes that nothing tells apart
    neither precedes nor follows. -/
def answerBy (F : Forest) (keys : Keys) (before : NodeId → NodeId → Bool) :
    Question → Option Bool
  | .precedes a b => some (F.apart keys a b || !F.tied keys a b && before a b)
  | .follows a b => some (!F.apart keys a b && !F.tied keys a b && before b a)
  | .ask _ => none

theorem Keeps.answerBy_eq (h : F.Keeps H) (hF : F.Numbered) (before : NodeId → NodeId → Bool)
    {q : Question} (hq : ∀ i ∈ q.nodes, F.alive i = true) :
    H.answerBy keys before q = F.answerBy keys before q := by
  match q with
  | .precedes a b | .follows a b =>
    have ha := hq a (by simp [Question.nodes])
    have hb := hq b (by simp [Question.nodes])
    rw [answerBy, answerBy, h.apart_eq, h.tied_eq hF ha hb]
  | .ask l => rfl

theorem Keeps.ordersAs (F : Forest) (keys : Keys) (o : Ordering) (a b : NodeId) :
    F.Keeps (F.ordersAs keys o a b).1 := by
  unfold Forest.ordersAs
  split
  · exact refl F
  · exact askPair F keys a b

theorem Keeps.pose (F : Forest) (keys : Keys) (q : Question) : F.Keeps (F.pose keys q).1 := by
  cases q with
  | precedes a b => exact ordersAs F keys .lt a b
  | follows a b => exact ordersAs F keys .gt a b
  | ask l => exact foldl_touch F l

theorem Keeps.behind (F : Forest) (keys : Keys) (qs : List Question) :
    F.Keeps (F.behind keys qs) := by
  induction qs generalizing F with
  | nil => exact refl F
  | cons q qs ih => exact (pose F keys q).trans (ih (F.pose keys q).1)

/-- Two nodes compare as the words do that they have in any later forest. -/
theorem ordersAs_eq (hF : F.Numbered) (ha : F.alive a = true) (hb : F.alive b = true)
    (hfits : F.IndexFits a) (hfits' : F.IndexFits b) (o : Ordering)
    (hlater : (F.ordersAs keys o a b).1.Keeps H) :
    (F.ordersAs keys o a b).2 = (a != b &&
      (if F.apart keys a b then .lt
        else if F.tied keys a b then .eq
        else compare (H.orderWord keys a) (H.orderWord keys b)) == o) := by
  unfold ordersAs at hlater ⊢
  by_cases hab : a = b
  · simp [hab]
  · rw [if_neg hab] at hlater ⊢
    rw [comparePair_eq hF ha hb hfits hfits' hlater]
    simp [hab]

/-- One answer is that of the words which nodes have in any later forest. -/
theorem pose_eq (hF : F.Numbered) {q : Question} (halive : ∀ i ∈ q.nodes, F.alive i = true)
    (hfits : ∀ i ∈ q.nodes, F.IndexFits i) (hlater : (F.pose keys q).1.Keeps H) :
    (F.pose keys q).2 = F.answerBy keys
      (fun a b => compare (H.orderWord keys a) (H.orderWord keys b) == .lt) q := by
  match q with
  | .precedes a b =>
    have hleft : a ∈ (Question.precedes a b).nodes := by simp [Question.nodes]
    have hright : b ∈ (Question.precedes a b).nodes := by simp [Question.nodes]
    simp only [pose, answerBy, ordersAs_eq hF (halive a hleft) (halive b hright) (hfits a hleft)
      (hfits b hright) .lt hlater]
    by_cases hab : a = b
    · simp [hab, apart, tied]
    · cases F.apart keys a b <;> cases F.tied keys a b <;> simp [hab]
  | .follows a b =>
    have hleft : a ∈ (Question.follows a b).nodes := by simp [Question.nodes]
    have hright : b ∈ (Question.follows a b).nodes := by simp [Question.nodes]
    have hswap : compare (H.orderWord keys b) (H.orderWord keys a) =
        (compare (H.orderWord keys a) (H.orderWord keys b)).swap := Std.OrientedCmp.eq_swap
    simp only [pose, answerBy, ordersAs_eq hF (halive a hleft) (halive b hright) (hfits a hleft)
      (hfits b hright) .gt hlater, hswap]
    by_cases hab : a = b
    · simp [hab, apart, tied]
    · cases F.apart keys a b <;> cases F.tied keys a b <;>
        cases compare (H.orderWord keys a) (H.orderWord keys b) <;> simp [hab]
  | .ask l => rfl

/-- All answers are those of the words which nodes have at the end. -/
theorem answers_eq (hF : F.Numbered) {qs : List Question}
    (halive : ∀ q ∈ qs, ∀ i ∈ q.nodes, F.alive i = true)
    (hfits : ∀ q ∈ qs, ∀ i ∈ q.nodes, F.IndexFits i) (hlater : (F.behind keys qs).Keeps H) :
    F.answers keys qs = qs.map (F.answerBy keys
      fun a b => compare (H.orderWord keys a) (H.orderWord keys b) == .lt) := by
  induction qs generalizing F with
  | nil => rfl
  | cons q qs ih =>
    have hstep := Keeps.pose F keys q
    have hrest := (Keeps.behind (F.pose keys q).1 keys qs).trans hlater
    have halive' (p : Question) (hp : p ∈ qs) := halive p (List.mem_cons_of_mem q hp)
    have hfits' (p : Question) (hp : p ∈ qs) := hfits p (List.mem_cons_of_mem q hp)
    rw [answers, List.map_cons, pose_eq hF (halive q List.mem_cons_self)
      (hfits q List.mem_cons_self) hrest]
    congr 1
    rw [ih (hstep.numbered hF) (fun p hp i hi => by rw [hstep.alive_eq, halive' p hp i hi])
      (fun p hp i hi => hstep.indexFits (halive' p hp i hi) (hfits' p hp i hi)) hlater]
    exact List.map_congr_left fun p hp => hstep.answerBy_eq hF _ (halive' p hp)

/-! ### One order -/

/-- In every forest that building, asking and letting go lead to, whatever keys it has or shows: the
    answers to any questions, posed one after the other about nodes whose places have the bits that
    they need, come from one strict total order of the nodes. Only two trees that show no key each
    come before the other, and two trees left by one node that show its key have no order where the
    keys of their nodes are hidden. -/
theorem comparisons_agree (backend : Backend) (history : List Event) (keys : Keys)
    (questions : List Question)
    (halive : ∀ q ∈ questions, ∀ i ∈ q.nodes, ((empty backend).after history).alive i = true)
    (hfits : ∀ q ∈ questions, ∀ i ∈ q.nodes, ((empty backend).after history).IndexFits i) :
    let F := (empty backend).after history
    ∃ before, F.StrictlyOrders before ∧
      F.answers keys questions = questions.map (F.answerBy keys before) := by
  intro F
  have hF : F.Numbered := numbered_after_empty backend history
  -- The order is read off a forest in which all trees are numbered at the end.
  let G := F.behind keys questions
  let H := (List.range G.nodes.size).foldl touch G
  have hkeeps : G.Keeps H := Keeps.foldl_touch G _
  have hlater : F.Keeps H := (Keeps.behind F keys questions).trans hkeeps
  refine ⟨_, strictlyOrders_of_words fun a b ha hb hword => ?_,
    answers_eq hF halive hfits hkeeps⟩
  have hpair : ∀ i ∈ [a, b], F.alive i = true := by simp [ha, hb]
  refine Asked.orderWord_inj ⟨hlater.numbered hF, fun i hi => ?_, fun hkeyed i hi => ?_⟩ hword
  · rw [hlater.alive_eq, hpair i hi]
  · have hi : G.alive i = true := by rw [(Keeps.behind F keys questions).alive_eq, hpair i hi]
    rw [hkeeps.root_eq]
    exact root_mem_numbered_foldl_touch (by rwa [← hkeeps.backend]) hi
      (List.mem_range.2 (lt_size_of_alive hi))

/-- Two trees with keys, of which the second one shows none: it comes last, whichever node is
    named first. -/
theorem comparisons_agree_hidden_key :
    let F := (empty .simple).after [.add (.textOf "a"), .add (.textOf "b"),
      .add ((NodeContent.elementNamed "e").withMembers [] [] [0])]
    let keys : Keys := ⟨fun r => r == 2, fun _ => true⟩
    let qs := [Question.precedes 1 0, .ask [1], .precedes 0 1, .follows 0 2]
    (∀ q ∈ qs, ∀ i ∈ q.nodes, F.alive i = true) ∧ (∀ q ∈ qs, ∀ i ∈ q.nodes, F.IndexFits i) ∧
      ∃ before, F.StrictlyOrders before ∧
        F.answers keys qs = qs.map (F.answerBy keys before) := by
  intro F keys qs
  have halive : ∀ q ∈ qs, ∀ i ∈ q.nodes, F.alive i = true := by
    have hall : ∀ i < 3, F.alive i = true := by decide
    simp [qs, Question.nodes, hall]
  have honce : F.ListsOnce := listsOnce_after .simple (by
    intro n hn
    simp only [List.mem_cons, Event.add.injEq, List.not_mem_nil, or_false] at hn
    rcases hn with rfl | rfl | rfl <;> decide)
  have hfits (i : NodeId) : F.IndexFits i :=
    (numbered_after_empty .simple _).indexFits honce (by decide) i
  exact ⟨halive, fun _ _ i _ => hfits i,
    comparisons_agree .simple _ keys qs halive fun _ _ i _ => hfits i⟩

/-- Two texts in trees without keys precede each other, and none follows. Two texts that a document
    left, whose trees show its key and hide the keys of nodes, precede each other neither way. -/
theorem trees_without_order :
    (let F := (empty .plain).after [.add (.textOf "a"), .add (.textOf "b")]
      let G := (F.precedes 0 1).1
      (F.precedes 0 1).2 = true ∧ (G.precedes 1 0).2 = true ∧ (G.follows 1 0).2 = false) ∧
    (let F := (empty .simple).after [.add (.textOf "a"), .add (.textOf "b"), .ask [0, 1],
        .add (NodeContent.document.withMembers [] [] [0, 1]), .ask [2], .drop 2]
      let keys : Keys := ⟨fun _ => true, fun _ => false⟩
      (F.ordersAs keys .lt 0 1).2 = false ∧
        ((F.ordersAs keys .lt 0 1).1.ordersAs keys .lt 1 0).2 = false) := by
  decide +kernel

end XPathData.Forest
