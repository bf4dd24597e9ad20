import XPathData.Proofs.Tree.Keys

/-! # Sorting into document order

  Nodes are sorted by the rank of their tree and then as the backend orders them. On nodes
  that were asked for their keys both comparisons, by keys and by ancestry, compare words of
  numbers. So nothing is sorted behind what comes after it, whatever the backend. Where the keys
  have the bits for the numbers, the words tell the nodes apart, and the order is strict.

  * `Forest.sortWord` — the word that a node is sorted by
  * `Forest.Numbered.inDocumentOrder_sorted` — nothing comes in front of what is smaller
  * `Forest.InOrder` — nodes in strictly ascending order, tree by tree
  * `Forest.Numbered.inDocumentOrder_inOrder` — the different nodes of a list come in this order
-/

namespace XPathData

/-! ### Lists -/

theorem nodup_eraseDups (l : List NodeId) : l.eraseDups.Nodup := by
  induction hn : l.length using Nat.strongRecOn generalizing l with
  | ind n ih =>
    cases l with
    | nil => exact List.nodup_nil
    | cons a l =>
      rw [List.eraseDups_cons, List.nodup_cons]
      constructor
      · rw [List.mem_eraseDups]
        simp
      · refine ih _ ?_ _ rfl
        rw [← hn, List.length_cons]
        exact Nat.lt_succ_of_le (List.length_filter_le _ _)

/-- Sorting by a comparison of words. -/
theorem mergeSort_pairwise_ne_gt {cmp : NodeId → NodeId → Ordering} (word : NodeId → List Nat)
    {l : List NodeId} (hcmp : ∀ a ∈ l, ∀ b ∈ l, cmp a b = compare (word a) (word b)) :
    (l.mergeSort fun a b => cmp a b != .gt).Pairwise fun a b => cmp a b ≠ .gt := by
  -- Words are ordered everywhere, while the comparison is only known on the members.
  have hsame : (l.mergeSort fun a b => cmp a b != .gt) =
      l.mergeSort fun a b => compare (word a) (word b) != .gt := by
    have hmap := List.map_mergeSort (f := id) (l := l)
      (r := fun a b => cmp a b != .gt) (s := fun a b => compare (word a) (word b) != .gt)
      fun a ha b hb => by rw [hcmp a ha b hb]; rfl
    rwa [List.map_id, List.map_id] at hmap
  have htrans : ∀ a b c : NodeId, (compare (word a) (word b) != .gt) = true →
      (compare (word b) (word c) != .gt) = true → (compare (word a) (word c) != .gt) = true := by
    intro a b c hab hbc
    simp only [bne_iff_ne, Ordering.ne_gt_iff_isLE] at hab hbc ⊢
    exact Std.TransCmp.isLE_trans hab hbc
  have htotal : ∀ a b : NodeId,
      ((compare (word a) (word b) != .gt) || (compare (word b) (word a) != .gt)) = true := by
    intro a b
    have hswap : compare (word b) (word a) = (compare (word a) (word b)).swap :=
      Std.OrientedCmp.eq_swap
    rw [hswap]
    cases compare (word a) (word b) <;> rfl
  have hmem : ∀ a, a ∈ (l.mergeSort fun a b => cmp a b != .gt) → a ∈ l := fun a ha =>
    (List.mergeSort_perm l _).mem_iff.1 ha
  have hsorted := List.pairwise_mergeSort htrans htotal l
  rw [← hsame] at hsorted
  refine hsorted.imp_of_mem fun {a b} ha hb hab => ?_
  rwa [hcmp a (hmem a ha) b (hmem b hb), ← bne_iff_ne]

/-- Words that tell the members apart sort them strictly. -/
theorem pairwise_lt_of_words {cmp : NodeId → NodeId → Ordering} (word : NodeId → List Nat)
    {l : List NodeId} (hl : l.Nodup)
    (hcmp : ∀ a ∈ l, ∀ b ∈ l, cmp a b = compare (word a) (word b))
    (hinj : ∀ a ∈ l, ∀ b ∈ l, word a = word b → a = b)
    (hsorted : l.Pairwise fun a b => cmp a b ≠ .gt) : l.Pairwise fun a b => cmp a b = .lt := by
  refine (hsorted.and hl).imp_of_mem fun {a b} ha hb hab => ?_
  obtain ⟨hle, hne⟩ := hab
  rw [hcmp a ha b hb] at hle ⊢
  cases hword : compare (word a) (word b) with
  | lt => rfl
  | eq => exact absurd (hinj a ha b hb (Std.LawfulEqCmp.eq_of_compare hword)) hne
  | gt => exact absurd hword hle

namespace Forest

variable {F : Forest} {l met : List NodeId} {a b : NodeId} {s t : TreePlace}

/-! ### What nodes are sorted by -/

/-- The rank of a tree and what follows it: what the key of a node holds of its place in the tree,
    or else its address. -/
def sortWord (F : Forest) (met : List NodeId) (i : NodeId) : List Nat :=
  match F.place? i with
  | some p => [0, p.tree, p.index % 2 ^ 32]
  | none => 1 :: met.idxOf (F.root i) :: F.address i

/-- Nodes as an ordering finds them: all have keys, and are in numbered trees, or none has
    one. -/
structure Asked (F : Forest) (l : List NodeId) : Prop where
  numbered : F.Numbered
  alive : ∀ i ∈ l, F.alive i = true
  asked : F.backend.keyed = true → ∀ i ∈ l, F.root i ∈ F.numbered

theorem Asked.exists_placedAt (h : F.Asked l) (hkeyed : F.backend.keyed = true) (ha : a ∈ l) :
    ∃ t, F.PlacedAt a t :=
  h.numbered.exists_placedAt hkeyed (h.alive a ha) (h.asked hkeyed a ha)

theorem mem_rootsMet (ha : a ∈ l) : F.root a ∈ F.rootsMet l :=
  List.mem_eraseDups.2 (List.mem_map_of_mem ha)

theorem treeRank_of_place (ha : F.place? a = some s) : F.treeRank met a = (0, s.tree) := by
  rw [treeRank, treeKey?, ha]
  rfl

theorem treeRank_of_none (ha : F.place? a = none) :
    F.treeRank met a = (1, met.idxOf (F.root a)) := by
  rw [treeRank, treeKey?, ha]
  rfl

theorem compareNumbered_of_places (ha : F.place? a = some s) (hb : F.place? b = some t)
    (htree : s.tree = t.tree) :
    F.compareNumbered a b = .ok (compare (s.index % 2 ^ 32) (t.index % 2 ^ 32)) := by
  rw [compareNumbered, orderKey?, orderKey?, ha, hb, ← TreePlace.compare_key htree]
  rfl

/-- Where indices fit, nothing of the places is lost. -/
theorem compareNumbered_of_fits (ha : F.PlacedAt a s) (hb : F.PlacedAt b t)
    (htree : s.tree = t.tree) (hfits : F.IndexFits a) (hfits' : F.IndexFits b) :
    F.compareNumbered a b = .ok (compare s.index t.index) := by
  rw [compareNumbered_of_places ha.place hb.place htree, Nat.mod_eq_of_lt (ha.index_lt hfits),
    Nat.mod_eq_of_lt (hb.index_lt hfits')]

theorem compareNumbered_of_none (ha : F.place? a = none) :
    F.compareNumbered a b = F.compareByAncestry a b := by
  rw [compareNumbered, orderKey?, ha]
  rfl

/-- Nodes of one tree have one rank. -/
theorem Asked.rank_eq_of_root (h : F.Asked l) (ha : a ∈ l) (hb : b ∈ l)
    (hroot : F.root a = F.root b) :
    F.treeRank (F.rootsMet l) a = F.treeRank (F.rootsMet l) b := by
  by_cases hkeyed : F.backend.keyed = true
  · obtain ⟨s, hs⟩ := h.exists_placedAt hkeyed ha
    obtain ⟨t, ht⟩ := h.exists_placedAt hkeyed hb
    rw [treeRank_of_place hs.place, treeRank_of_place ht.place,
      h.numbered.tree_eq_of_root hs ht hroot]
  · rw [treeRank_of_none (place?_eq_none hkeyed a), treeRank_of_none (place?_eq_none hkeyed b),
      hroot]

/-- Different trees have different ranks, unless both hung below nodes that are gone. -/
theorem Asked.root_eq_or_orphan (h : F.Asked l) (ha : a ∈ l) (hb : b ∈ l)
    (hrank : F.treeRank (F.rootsMet l) a = F.treeRank (F.rootsMet l) b) :
    F.root a = F.root b ∨
      F.backend.keyed = true ∧ F.Orphan (F.root a) ∧ F.Orphan (F.root b) := by
  by_cases hroot : F.root a = F.root b
  · exact .inl hroot
  by_cases hkeyed : F.backend.keyed = true
  · obtain ⟨s, hs⟩ := h.exists_placedAt hkeyed ha
    obtain ⟨t, ht⟩ := h.exists_placedAt hkeyed hb
    rw [treeRank_of_place hs.place, treeRank_of_place ht.place] at hrank
    have htree : s.tree = t.tree := (Prod.mk.inj hrank).2
    exact .inr ⟨hkeyed, h.numbered.orphan_of_tree_eq hs ht htree hroot,
      h.numbered.orphan_of_tree_eq ht hs htree.symm (Ne.symm hroot)⟩
  · rw [treeRank_of_none (place?_eq_none hkeyed a),
      treeRank_of_none (place?_eq_none hkeyed b)] at hrank
    exact .inl ((List.idxOf_inj (mem_rootsMet ha)).1 (Prod.mk.inj hrank).2)

/-- Nodes of one rank can be compared: the comparison of an ordering does not fail. -/
theorem Asked.compareNumbered_ok (h : F.Asked l) (ha : a ∈ l) (hb : b ∈ l)
    (hrank : F.treeRank (F.rootsMet l) a = F.treeRank (F.rootsMet l) b) :
    ∃ o, F.compareNumbered a b = .ok o := by
  by_cases hkeyed : F.backend.keyed = true
  · obtain ⟨s, hs⟩ := h.exists_placedAt hkeyed ha
    obtain ⟨t, ht⟩ := h.exists_placedAt hkeyed hb
    rw [treeRank_of_place hs.place, treeRank_of_place ht.place] at hrank
    exact ⟨_, compareNumbered_of_places hs.place ht.place (Prod.mk.inj hrank).2⟩
  · have hroot := (h.root_eq_or_orphan ha hb hrank).resolve_right fun horphan =>
      hkeyed horphan.1
    rw [compareNumbered_of_none (place?_eq_none hkeyed a), compareByAncestry_eq hroot]
    exact ⟨_, rfl⟩

/-- The comparison of an ordering compares words. -/
theorem Asked.compareRanked_eq (h : F.Asked l) (ha : a ∈ l) (hb : b ∈ l) :
    F.compareRanked (F.rootsMet l) a b =
      compare (F.sortWord (F.rootsMet l) a) (F.sortWord (F.rootsMet l) b) := by
  unfold compareRanked
  by_cases hkeyed : F.backend.keyed = true
  · obtain ⟨s, hs⟩ := h.exists_placedAt hkeyed ha
    obtain ⟨t, ht⟩ := h.exists_placedAt hkeyed hb
    simp only [treeRank_of_place hs.place, treeRank_of_place ht.place, sortWord, hs.place, ht.place,
      List.compare_cons_cons]
    by_cases htree : s.tree = t.tree
    · rw [compareNumbered_of_places hs.place ht.place htree, htree, Nat.compare_eq_eq.2 rfl,
        Nat.compare_eq_eq.2 rfl]
      cases compare (s.index % 2 ^ 32) (t.index % 2 ^ 32) <;> rfl
    · have hne : compare s.tree t.tree ≠ .eq := by rwa [Ne, Nat.compare_eq_eq]
      revert hne
      cases compare s.tree t.tree <;> simp
  · have hnone := place?_eq_none hkeyed
    simp only [treeRank_of_none (hnone _), hnone, compareNumbered_of_none, sortWord,
      List.compare_cons_cons]
    by_cases hroot : F.root a = F.root b
    · rw [compareByAncestry_eq hroot, hroot, Nat.compare_eq_eq.2 rfl, Nat.compare_eq_eq.2 rfl]
      rfl
    · -- The ranks decide, so it does not matter that ancestry cannot compare these nodes.
      have hne : compare ((F.rootsMet l).idxOf (F.root a)) ((F.rootsMet l).idxOf (F.root b)) ≠
          .eq := by
        rw [Ne, Nat.compare_eq_eq, List.idxOf_inj (mem_rootsMet ha)]
        exact hroot
      revert hne
      cases compare ((F.rootsMet l).idxOf (F.root a)) ((F.rootsMet l).idxOf (F.root b)) <;> simp

/-- Where indices fit, words tell nodes apart. -/
theorem Asked.sortWord_inj (h : F.Asked l) (hfits : ∀ i ∈ l, F.IndexFits i) (ha : a ∈ l)
    (hb : b ∈ l) (hword : F.sortWord (F.rootsMet l) a = F.sortWord (F.rootsMet l) b) : a = b := by
  by_cases hkeyed : F.backend.keyed = true
  · obtain ⟨s, hs⟩ := h.exists_placedAt hkeyed ha
    obtain ⟨t, ht⟩ := h.exists_placedAt hkeyed hb
    simp only [sortWord, hs.place, ht.place, List.cons.injEq, true_and, and_true] at hword
    obtain ⟨htree, hindex⟩ := hword
    rw [Nat.mod_eq_of_lt (hs.index_lt (hfits a ha)),
      Nat.mod_eq_of_lt (ht.index_lt (hfits b hb))] at hindex
    exact h.numbered.place_inj hs.place ht.place htree hindex
  · simp only [sortWord, place?_eq_none hkeyed, List.cons.injEq, true_and] at hword
    obtain ⟨hmet, haddress⟩ := hword
    exact address_inj ((List.idxOf_inj (mem_rootsMet ha)).1 hmet) haddress

/-! ### Strict order -/

/-- A rank is smaller than another one: trees with keys come first, and then the number
    decides. -/
def RankBefore (r s : Nat × Nat) : Prop := r.1 < s.1 ∨ r.1 = s.1 ∧ r.2 < s.2

/-- A node comes strictly before another one: by the rank of its tree, or with one rank as the
    backend orders them. -/
def Before (F : Forest) (met : List NodeId) (a b : NodeId) : Prop :=
  RankBefore (F.treeRank met a) (F.treeRank met b) ∨
    F.treeRank met a = F.treeRank met b ∧ F.compareNumbered a b = .ok .lt

theorem before_of_compareRanked (h : F.compareRanked met a b = .lt) : F.Before met a b := by
  simp only [compareRanked, Ordering.then_eq_lt] at h
  rcases h with (hgroup | ⟨hgroup, hrank⟩) | ⟨hrank, hnode⟩
  · exact .inl (.inl (Nat.compare_eq_lt.1 hgroup))
  · exact .inl (.inr ⟨Nat.compare_eq_eq.1 hgroup, Nat.compare_eq_lt.1 hrank⟩)
  · obtain ⟨hgroup, hrank⟩ := Ordering.then_eq_eq.1 hrank
    refine .inr ⟨Prod.ext (Nat.compare_eq_eq.1 hgroup) (Nat.compare_eq_eq.1 hrank), ?_⟩
    split at hnode
    · next o ho => rw [ho, hnode]
    · cases hnode

/-- Nodes in strictly ascending order, those of one tree side by side. -/
structure InOrder (F : Forest) (met out : List NodeId) : Prop where
  ascending : out.Pairwise (F.Before met)
  contiguous : ∀ a b c, List.Sublist [a, b, c] out → F.root a = F.root c → F.root b = F.root a

theorem InOrder.filter {out : List NodeId} (h : F.InOrder met out) (q : NodeId → Bool) :
    F.InOrder met (out.filter q) where
  ascending := h.ascending.filter q
  contiguous a b c hsub := h.contiguous a b c (hsub.trans List.filter_sublist)

theorem RankBefore.asymm {r r' : Nat × Nat} (h : RankBefore r r') : ¬RankBefore r' r := by
  unfold RankBefore at h ⊢
  omega

/-- A node between two of one tree has their rank. -/
theorem rank_eq_of_between {c : NodeId} (hab : F.Before met a b) (hbc : F.Before met b c)
    (hrank : F.treeRank met a = F.treeRank met c) :
    (F.treeRank met a = F.treeRank met b ∧ F.compareNumbered a b = .ok .lt) ∧
      F.treeRank met b = F.treeRank met c ∧ F.compareNumbered b c = .ok .lt := by
  rcases hab with hab | hab
  · rcases hbc with hbc | hbc
    · rw [← hrank] at hbc
      unfold RankBefore at hab hbc
      omega
    · rw [hrank, hbc.1] at hab
      exact absurd hab hab.asymm
  · rcases hbc with hbc | hbc
    · rw [← hrank, hab.1] at hbc
      exact absurd hbc hbc.asymm
    · exact ⟨hab, hbc⟩

/-- Ranks do not go down, and in one numbering trees lie side by side. So a tree that is left is
    not met again. -/
theorem Asked.contiguous {out : List NodeId} (h : F.Asked l) (hfits : ∀ i ∈ l, F.IndexFits i)
    (hmem : ∀ a ∈ out, a ∈ l) (hout : out.Pairwise (F.Before (F.rootsMet l))) {c : NodeId}
    (hsub : List.Sublist [a, b, c] out) (hroot : F.root a = F.root c) : F.root b = F.root a := by
  have ha : a ∈ l := hmem a (hsub.subset (by simp))
  have hb : b ∈ l := hmem b (hsub.subset (by simp))
  have hc : c ∈ l := hmem c (hsub.subset (by simp))
  have hpairs := hout.sublist hsub
  simp only [List.pairwise_cons, List.mem_cons, List.not_mem_nil, or_false, forall_eq_or_imp,
    forall_eq] at hpairs
  obtain ⟨⟨hab, -⟩, hbc, -⟩ := hpairs
  obtain ⟨⟨hrank, hab⟩, -, hbc⟩ := rank_eq_of_between hab hbc (h.rank_eq_of_root ha hc hroot)
  by_cases hkeyed : F.backend.keyed = true
  · obtain ⟨s, hs⟩ := h.exists_placedAt hkeyed ha
    obtain ⟨t, ht⟩ := h.exists_placedAt hkeyed hb
    obtain ⟨u, hu⟩ := h.exists_placedAt hkeyed hc
    rw [treeRank_of_place hs.place, treeRank_of_place ht.place] at hrank
    have htree : s.tree = t.tree := (Prod.mk.inj hrank).2
    have htree' : t.tree = u.tree :=
      htree.symm.trans (h.numbered.tree_eq_of_root hs hu hroot)
    rw [compareNumbered_of_fits hs ht htree (hfits a ha) (hfits b hb)] at hab
    rw [compareNumbered_of_fits ht hu htree' (hfits b hb) (hfits c hc)] at hbc
    exact h.numbered.root_eq_of_between hs ht hu hroot htree
      (Nat.compare_eq_lt.1 (Except.ok.inj hab)) (Nat.compare_eq_lt.1 (Except.ok.inj hbc))
  · exact ((h.root_eq_or_orphan ha hb hrank).resolve_right fun horphan =>
      hkeyed horphan.1).symm

/-! ### The different nodes of a list -/

theorem Keeps.inDocumentOrder (F : Forest) (l : List NodeId) : F.Keeps (F.inDocumentOrder l).1 :=
  foldl_touch F _

theorem Numbered.asked_eraseDups (h : F.Numbered) (halive : ∀ a ∈ l, F.alive a = true) :
    (F.inDocumentOrder l).1.Asked l.eraseDups where
  numbered := (Keeps.inDocumentOrder F l).numbered h
  alive a ha := by
    rw [(Keeps.inDocumentOrder F l).alive_eq]
    exact halive a (List.mem_eraseDups.1 ha)
  asked hkeyed a ha := by
    rw [inDocumentOrder, backend_foldl_touch] at hkeyed
    rw [inDocumentOrder, root_of_nodes_eq (F.nodes_foldl_touch _)]
    exact root_mem_numbered_foldl_touch hkeyed (halive a (List.mem_eraseDups.1 ha)) ha

theorem mem_inDocumentOrder : a ∈ (F.inDocumentOrder l).2 ↔ a ∈ l :=
  (List.mergeSort_perm _ _).mem_iff.trans List.mem_eraseDups

theorem nodup_inDocumentOrder (F : Forest) (l : List NodeId) : (F.inDocumentOrder l).2.Nodup :=
  (List.mergeSort_perm _ _).nodup_iff.2 (nodup_eraseDups l)

/-- Nothing comes in front of what is smaller. -/
theorem Numbered.inDocumentOrder_sorted (h : F.Numbered) (halive : ∀ a ∈ l, F.alive a = true) :
    (F.inDocumentOrder l).2.Pairwise fun a b => (F.inDocumentOrder l).1.compareRanked
      ((F.inDocumentOrder l).1.rootsMet l.eraseDups) a b ≠ .gt :=
  mergeSort_pairwise_ne_gt (Forest.sortWord _ _) fun _ ha _ hb =>
    (h.asked_eraseDups halive).compareRanked_eq ha hb

/-- Where indices fit, the different nodes of a list come out in order. -/
theorem Numbered.inDocumentOrder_inOrder (h : F.Numbered) (halive : ∀ a ∈ l, F.alive a = true)
    (hfits : ∀ a ∈ l, (F.inDocumentOrder l).1.IndexFits a) :
    (F.inDocumentOrder l).1.InOrder ((F.inDocumentOrder l).1.rootsMet l.eraseDups)
      (F.inDocumentOrder l).2 := by
  have hasked := h.asked_eraseDups halive
  have hfits (a : NodeId) (ha : a ∈ l.eraseDups) := hfits a (List.mem_eraseDups.1 ha)
  have hmem (a : NodeId) (ha : a ∈ (F.inDocumentOrder l).2) : a ∈ l.eraseDups :=
    List.mem_eraseDups.2 (mem_inDocumentOrder.1 ha)
  have hstrict := pairwise_lt_of_words (Forest.sortWord _ _) (F.nodup_inDocumentOrder l)
    (fun a ha b hb => hasked.compareRanked_eq (hmem a ha) (hmem b hb))
    (fun a ha b hb => hasked.sortWord_inj hfits (hmem a ha) (hmem b hb))
    (h.inDocumentOrder_sorted halive)
  have hascending := hstrict.imp fun {a b} hab => before_of_compareRanked hab
  exact ⟨hascending, fun a b c hsub hroot =>
    hasked.contiguous hfits hmem hascending hsub hroot⟩

end Forest

end XPathData
