import XPathData.Proofs.Tree.Branches
import XPathData.Proofs.Tree.Sorting
import XPathData.Sequence.NodeSet
import XPathData.Tree.Build

/-! # Members that are listed again

  A node may list one of its nodes several times. Comparison by ancestry goes by the place where
  the node is listed first. The numbering comes to the node each time and overwrites what it wrote,
  so keys go by the place where it is listed last. Both orders agree on a tree exactly if its nodes
  list their own nodes in one order, first and last, and so do the set operations with and without
  keys.

  * `Forest.ListsAlike` — members come in one order, by their first places and by their last ones
  * `Forest.Numbered.keysCompare_iff` — what the keys of a tree go by
  * `Forest.inDocumentOrder_eq_iff` — when keys make no difference to sorting
  * `Forest.keys_agree_iff_listed_alike` — when keys make no difference
-/

namespace XPathData.Forest

variable {F G : Forest} {a b c d i p r : NodeId}

/-! ### First and last places -/

/-- The nodes of a tree list their own nodes in one order, by their first places and by their last
    ones. -/
def ListsAlike (F : Forest) (r : NodeId) : Prop :=
  ∀ p c d, F.root p = r → (F.node c).parent = some p → (F.node d).parent = some p →
    compare (F.position p c) (F.position p d) = compare (F.lastPosition p c) (F.lastPosition p d)

/-- Last places order a tree as ancestry does exactly if it lists alike. -/
theorem last_eq_ancestry_iff :
    (∀ a b, F.root a = r → F.root b = r → F.compareByAncestry a b =
      .ok (compare (lastIdxOf a (F.preorder r)) (lastIdxOf b (F.preorder r)))) ↔
      F.ListsAlike r := by
  constructor
  · intro h p c d hp hc hd
    by_cases hcd : c = d
    · subst hcd
      rw [Nat.compare_eq_eq.2 rfl, Nat.compare_eq_eq.2 rfl]
    · have hforks := Forks.members hc hd hcd
      have heq := h c d (hforks.root_left.trans hp) (hforks.root_right.trans hp)
      rw [hforks.compareByAncestry_eq, ← hp, hforks.compare_last] at heq
      exact Except.ok.inj heq
  · intro h a b ha hb
    by_cases hab : a = b
    · subst hab
      rw [compareByAncestry_self, Nat.compare_eq_eq.2 rfl]
    rcases above_or_forks (ha.trans hb.symm) with habove | hbelow | ⟨p, c, d, hforks⟩
    · rw [compareByAncestry_above habove hab, ← hb, compare_last_above habove hab]
    · have hgt := compareByAncestry_swap (hb.trans ha.symm)
        (compareByAncestry_above hbelow (Ne.symm hab))
      have hlast := compare_last_above hbelow (Ne.symm hab)
      rw [ha] at hlast
      rw [hgt, Nat.compare_eq_gt.2 (Nat.compare_eq_lt.1 hlast)]
      rfl
    · have hp : F.root p = r := hforks.root_left.symm.trans ha
      rw [hforks.compareByAncestry_eq, h p c d hp hforks.left hforks.right, ← hp,
        hforks.compare_last]

/-! ### Keys -/

/-- The keys that two nodes answer, asked one after the other, have this order. -/
def KeysCompare (F : Forest) (a b : NodeId) (o : Ordering) : Prop :=
  ∃ x y, (F.touch a).orderKey? a = some x ∧ ((F.touch a).touch b).orderKey? b = some y ∧
    compare x y = o

/-- What the keys of a tree go by, if they have the bits for its places. -/
theorem Numbered.keysCompare_iff (h : F.Numbered) (hkeyed : F.backend.keyed = true)
    (hr : F.alive r = true) (hfits : ∀ i, F.root i = r → F.IndexFits i) (ha : F.root a = r)
    (hb : F.root b = r) {o : Ordering} :
    F.KeysCompare a b o ↔
      o = compare (lastIdxOf a (F.preorder r)) (lastIdxOf b (F.preorder r)) := by
  subst ha
  obtain ⟨x, y, hx, hy, hxy⟩ := h.keys_asked hkeyed (alive_of_root hr) (alive_of_root (hb ▸ hr))
    hb.symm (hfits a rfl) (hfits b hb)
  rw [← hxy]
  constructor
  · rintro ⟨x', y', hx', hy', rfl⟩
    rw [Option.some.inj (hx'.symm.trans hx), Option.some.inj (hy'.symm.trans hy)]
  · rintro rfl
    exact ⟨x, y, hx, hy, rfl⟩

/-! ### Sorting -/

/-- Nodes of one tree are sorted as the backend compares them. -/
theorem Numbered.pairwise_compareNumbered (h : F.Numbered) {l : List NodeId}
    (hr : F.alive r = true) (htree : ∀ n ∈ l, F.root n = r)
    (hfits : ∀ i, F.root i = r → F.IndexFits i) :
    (F.inDocumentOrder l).2.Pairwise fun a b =>
      (F.inDocumentOrder l).1.compareNumbered a b = .ok .lt := by
  have halive (n : NodeId) (hn : n ∈ l) : F.alive n = true := alive_of_root (htree n hn ▸ hr)
  have hasked := h.asked_eraseDups halive
  have hkeeps := Keeps.inDocumentOrder F l
  have hinOrder := h.inDocumentOrder_inOrder halive fun n hn =>
    hkeeps.indexFits (halive n hn) (hfits n (htree n hn))
  refine hinOrder.ascending.imp_of_mem fun {a b} ha hb hab => ?_
  have ha := mem_inDocumentOrder.1 ha
  have hb := mem_inDocumentOrder.1 hb
  have hroot : (F.inDocumentOrder l).1.root a = (F.inDocumentOrder l).1.root b := by
    rw [hkeeps.root_eq, hkeeps.root_eq, htree a ha, htree b hb]
  have hrank := hasked.rank_eq_of_root (List.mem_eraseDups.2 ha) (List.mem_eraseDups.2 hb) hroot
  rcases hab with hbefore | ⟨-, hcompare⟩
  · rw [hrank] at hbefore
    exact absurd hbefore hbefore.asymm
  · exact hcompare

/-- With keys, nodes of one tree are sorted by their last places. -/
theorem Numbered.pairwise_last (h : F.Numbered) (hkeyed : F.backend.keyed = true)
    {l : List NodeId} (hr : F.alive r = true) (htree : ∀ n ∈ l, F.root n = r)
    (hfits : ∀ i, F.root i = r → F.IndexFits i) :
    (F.inDocumentOrder l).2.Pairwise fun a b =>
      compare (lastIdxOf a (F.preorder r)) (lastIdxOf b (F.preorder r)) = .lt := by
  have halive (n : NodeId) (hn : n ∈ l) : F.alive n = true := alive_of_root (htree n hn ▸ hr)
  have hasked := h.asked_eraseDups halive
  have hkeeps := Keeps.inDocumentOrder F l
  have hkeyed' : (F.inDocumentOrder l).1.backend.keyed = true := by rwa [hkeeps.backend]
  refine (h.pairwise_compareNumbered hr htree hfits).imp_of_mem fun {a b} ha hb hab => ?_
  have ha := mem_inDocumentOrder.1 ha
  have hb := mem_inDocumentOrder.1 hb
  obtain ⟨s, hs⟩ := hasked.exists_placedAt hkeyed' (List.mem_eraseDups.2 ha)
  obtain ⟨t, ht⟩ := hasked.exists_placedAt hkeyed' (List.mem_eraseDups.2 hb)
  have hroot : (F.inDocumentOrder l).1.root a = (F.inDocumentOrder l).1.root b := by
    rw [hkeeps.root_eq, hkeeps.root_eq, htree a ha, htree b hb]
  have htree' := hasked.numbered.tree_eq_of_root hs ht hroot
  have hfits' (n : NodeId) (hn : n ∈ l) := hkeeps.indexFits (halive n hn) (hfits n (htree n hn))
  rw [compareNumbered_of_fits hs ht htree' (hfits' a ha) (hfits' b hb),
    hasked.numbered.compare_index hs ht hroot, hkeeps.root_eq, htree a ha,
    preorder_of_nodes_eq hkeeps.nodes] at hab
  exact Except.ok.inj hab

/-- Without keys every place fits. -/
theorem indexFits_of_keyless (hkeyless : F.backend.keyed = false) (i : NodeId) : F.IndexFits i := by
  intro k hk
  rw [index?, place?_eq_none (by rw [backend_touch, hkeyless]; exact Bool.false_ne_true)] at hk
  cases hk

/-- Without keys, nodes of one tree are sorted by ancestry. -/
theorem Numbered.pairwise_ancestry (h : F.Numbered) (hkeyless : F.backend.keyed = false)
    {l : List NodeId} (hr : F.alive r = true) (htree : ∀ n ∈ l, F.root n = r) :
    (F.inDocumentOrder l).2.Pairwise fun a b => compare (F.address a) (F.address b) = .lt := by
  have hkeeps := Keeps.inDocumentOrder F l
  refine (h.pairwise_compareNumbered hr htree fun i _ =>
    indexFits_of_keyless hkeyless i).imp_of_mem fun {a b} ha hb hab => ?_
  have hroot := (htree a (mem_inDocumentOrder.1 ha)).trans (htree b (mem_inDocumentOrder.1 hb)).symm
  have hnone : (F.inDocumentOrder l).1.place? a = none := by
    refine place?_eq_none ?_ a
    rw [hkeeps.backend, hkeyless]
    exact Bool.false_ne_true
  rw [compareNumbered_of_none hnone,
    (Extends.of_nodes_eq hkeeps.nodes).compareByAncestry_eq hroot,
    compareByAncestry_eq hroot] at hab
  exact Except.ok.inj hab

/-- Two strict orders of the members of a list that both sort it are the same on them. -/
theorem compare_eq_of_pairwise {u : NodeId → List Nat} {v : NodeId → Nat} {l : List NodeId}
    (hu : l.Pairwise fun a b => compare (u a) (u b) = .lt)
    (hv : l.Pairwise fun a b => compare (v a) (v b) = .lt) (ha : a ∈ l) (hb : b ∈ l) :
    compare (u a) (u b) = compare (v a) (v b) := by
  have hsame : l.Pairwise fun a b => compare (u a) (u b) = compare (v a) (v b) :=
    (hu.and hv).imp fun {a b} hab => hab.1.trans hab.2.symm
  refine List.Pairwise.forall_of_forall_of_flip (fun a _ => ?_) hsame ?_ ha hb
  · simp only [Std.ReflCmp.compare_self]
  · refine hsame.imp fun {a b} hab => ?_
    have hswap : compare (u b) (u a) = (compare (u a) (u b)).swap := Std.OrientedCmp.eq_swap
    have hswap' : compare (v b) (v a) = (compare (v a) (v b)).swap := Std.OrientedCmp.eq_swap
    rw [flip, hswap, hswap', hab]

/-- With and without keys the nodes of a tree are sorted alike exactly if the tree lists alike. -/
theorem inDocumentOrder_eq_iff (hF : F.Numbered) (hG : G.Numbered)
    (hkeyed : F.backend.keyed = true) (hkeyless : G.backend.keyed = false)
    (hnodes : G.nodes = F.nodes) (hr : F.alive r = true)
    (hfits : ∀ i, F.root i = r → F.IndexFits i) :
    (∀ l, (∀ n ∈ l, F.root n = r) → (F.inDocumentOrder l).2 = (G.inDocumentOrder l).2) ↔
      F.ListsAlike r := by
  have hlast (l : List NodeId) (htree : ∀ n ∈ l, F.root n = r) :=
    hF.pairwise_last hkeyed hr htree hfits
  have hancestry (l : List NodeId) (htree : ∀ n ∈ l, F.root n = r) :
      (G.inDocumentOrder l).2.Pairwise fun a b => compare (F.address a) (F.address b) = .lt := by
    simp only [← address_of_nodes_eq hnodes]
    refine hG.pairwise_ancestry hkeyless ((alive_of_nodes_eq hnodes r).trans hr) fun n hn => ?_
    rw [root_of_nodes_eq hnodes, htree n hn]
  rw [← last_eq_ancestry_iff]
  constructor
  · intro h a b ha hb
    -- One list that is sorted by both orders shows how they compare its two members.
    have htree : ∀ n ∈ [a, b], F.root n = r := by simp [ha, hb]
    have hsorted := hancestry [a, b] htree
    rw [← h [a, b] htree] at hsorted
    rw [compareByAncestry_eq (ha.trans hb.symm)]
    exact congrArg Except.ok (compare_eq_of_pairwise hsorted (hlast [a, b] htree)
      (mem_inDocumentOrder.2 (by simp)) (mem_inDocumentOrder.2 (by simp)))
  · intro h l htree
    have hperm : (F.inDocumentOrder l).2.Perm (G.inDocumentOrder l).2 :=
      (List.perm_ext_iff_of_nodup (F.nodup_inDocumentOrder l) (G.nodup_inDocumentOrder l)).2
        fun n => mem_inDocumentOrder.trans mem_inDocumentOrder.symm
    have hsorted : (F.inDocumentOrder l).2.Pairwise fun a b =>
        compare (F.address a) (F.address b) = .lt := by
      refine (hlast l htree).imp_of_mem fun {a b} ha hb hab => ?_
      have ha := htree a (mem_inDocumentOrder.1 ha)
      have hb := htree b (mem_inDocumentOrder.1 hb)
      have hsame := h a b ha hb
      rw [compareByAncestry_eq (ha.trans hb.symm)] at hsame
      rw [Except.ok.inj hsame, hab]
    refine List.Perm.eq_of_pairwise ?_ hsorted (hancestry l htree) hperm
    intro a b _ _ hab hba
    exact absurd hba (Std.OrientedCmp.not_lt_of_lt hab)

/-- With and without keys set operations on the nodes of a tree give the same lists exactly if the
    tree lists alike. -/
theorem combine_eq_iff (hF : F.Numbered) (hG : G.Numbered) (hkeyed : F.backend.keyed = true)
    (hkeyless : G.backend.keyed = false) (hnodes : G.nodes = F.nodes) (hr : F.alive r = true)
    (hfits : ∀ i, F.root i = r → F.IndexFits i) :
    (∀ op l m, (∀ n ∈ l ++ m, F.root n = r) →
      (Stream.combine op F l m).2 = (Stream.combine op G l m).2) ↔ F.ListsAlike r := by
  rw [← inDocumentOrder_eq_iff hF hG hkeyed hkeyless hnodes hr hfits]
  constructor
  · intro h l htree
    have hunion := h .union l [] (by rwa [List.append_nil])
    rwa [Stream.combine, Stream.combine, List.append_nil] at hunion
  · intro h op l m htree
    have hleft : ∀ n ∈ l, F.root n = r := fun n hn => htree n (List.mem_append_left m hn)
    cases op with
    | union => exact h (l ++ m) htree
    | intersect => exact congrArg (List.filter _) (h l hleft)
    | except => exact congrArg (List.filter _) (h l hleft)

/-! ### Forests with and without keys -/

theorem addedNodes_of_nodes_eq (h : G.nodes = F.nodes) (n : NodeContent) :
    G.addedNodes n = F.addedNodes n := by
  have halive : G.alive = F.alive := funext (alive_of_nodes_eq h)
  have hnode : G.node = F.node := funext (node_of_nodes_eq h)
  unfold addedNodes known
  rw [halive, hnode, h]

theorem nodes_drop_of_nodes_eq (h : G.nodes = F.nodes) (j : NodeId) :
    (G.drop j).nodes = (F.drop j).nodes := by
  rw [nodes_drop, nodes_drop, held, held, nodesWithout, nodesWithout, h]

/-- What is built does not depend on the keys. -/
theorem nodes_after_eq (h : G.nodes = F.nodes) (history : List Event) :
    (G.after history).nodes = (F.after history).nodes := by
  induction history generalizing F G with
  | nil => exact h
  | cons e history ih =>
    refine ih ?_
    cases e with
    | add n => exact addedNodes_of_nodes_eq h n
    | ask l => rw [record, record, nodes_foldl_touch, nodes_foldl_touch, h]
    | drop j => exact nodes_drop_of_nodes_eq h j

/-- In a tree that is built with keys, and once more without them, if keys have the bits for its
    places: what is above a node comes before it, by keys and by ancestry. Nodes in different
    branches come by keys as their branches are listed last, and by ancestry as these are listed
    first. So keys and ancestry order the tree
    alike, and set operations on its nodes give the same lists, exactly if its nodes list their own
    nodes in one order, first and last. -/
theorem keys_agree_iff_listed_alike (backend : Backend) (hkeyless : backend.keyed = false)
    (history : List Event) (r : NodeId) (hr : ((empty .simple).after history).alive r = true)
    (hfits : ∀ i, ((empty .simple).after history).root i = r →
      ((empty .simple).after history).IndexFits i) :
    let F := (empty .simple).after history
    let G := (empty backend).after history
    (∀ a b, F.root b = r → a ∈ F.ancestors b → a ≠ b →
      F.KeysCompare a b .lt ∧ G.compareByAncestry a b = .ok .lt) ∧
    (∀ p c d a b, F.root p = r → F.Forks p c d a b →
      F.KeysCompare a b (compare (F.lastPosition p c) (F.lastPosition p d)) ∧
      G.compareByAncestry a b = .ok (compare (F.position p c) (F.position p d))) ∧
    ((∀ a b, F.root a = r → F.root b = r →
      ∃ o, F.KeysCompare a b o ∧ G.compareByAncestry a b = .ok o) ↔ F.ListsAlike r) ∧
    ((∀ op l m, (∀ n ∈ l ++ m, F.root n = r) →
      (Stream.combine op F l m).2 = (Stream.combine op G l m).2) ↔ F.ListsAlike r) := by
  intro F G
  have hF : F.Numbered := numbered_after_empty .simple history
  have hG : G.Numbered := numbered_after_empty backend history
  have hkeyed : F.backend.keyed = true := by rw [backend_after]; rfl
  have hkeyless : G.backend.keyed = false := by rwa [backend_after]
  have hnodes : G.nodes = F.nodes :=
    nodes_after_eq (F := empty .simple) (G := empty backend) rfl history
  have hancestry (a b : NodeId) (hroot : F.root a = F.root b) :
      G.compareByAncestry a b = F.compareByAncestry a b :=
    (Extends.of_nodes_eq hnodes).compareByAncestry_eq hroot
  have hkeys (a b : NodeId) (o : Ordering) (ha : F.root a = r) (hb : F.root b = r) :=
    hF.keysCompare_iff hkeyed hr hfits ha hb (o := o)
  refine ⟨?_, ?_, ?_, combine_eq_iff hF hG hkeyed hkeyless hnodes hr hfits⟩
  · intro a b hb habove hne
    have hroot := root_eq_of_mem_ancestors habove
    refine ⟨(hkeys a b _ (hroot ▸ hb) hb).2 ?_, ?_⟩
    · rw [← hb, compare_last_above habove hne]
    · rw [hancestry a b hroot.symm, compareByAncestry_above habove hne]
  · intro p c d a b hp hforks
    have ha := hforks.root_left.trans hp
    have hb := hforks.root_right.trans hp
    refine ⟨(hkeys a b _ ha hb).2 ?_, ?_⟩
    · rw [← hp, hforks.compare_last]
    · rw [hancestry a b (ha.trans hb.symm), hforks.compareByAncestry_eq]
  · rw [← last_eq_ancestry_iff]
    constructor
    · intro h a b ha hb
      obtain ⟨o, ho, hcompare⟩ := h a b ha hb
      rw [← (hkeys a b o ha hb).1 ho, ← hancestry a b (ha.trans hb.symm), hcompare]
    · intro h a b ha hb
      refine ⟨_, (hkeys a b _ ha hb).2 rfl, ?_⟩
      rw [hancestry a b (ha.trans hb.symm), h a b ha hb]

/-- An element that lists the first of its two texts twice in a row. -/
theorem keys_agree_iff_listed_alike_in_a_row :
    let history : List Event := [.add (.textOf "a"), .add (.textOf "b"),
      .add ((NodeContent.elementNamed "e").withMembers [] [] [0, 0, 1])]
    let F := (empty .simple).after history
    let G := (empty .plain).after history
    (Backend.plain.keyed = false ∧ F.alive 2 = true ∧ ∀ i, F.root i = 2 → F.IndexFits i) ∧
      F.Forks 2 0 1 0 1 ∧ F.KeysCompare 0 1 .lt ∧ G.compareByAncestry 0 1 = .ok .lt := by
  intro history F G
  have hr : F.alive 2 = true := by decide
  have hsteps : (F.preorder 2).length ≤ 2 ^ 32 := by decide +kernel
  have hfits : ∀ i, F.root i = 2 → F.IndexFits i := fun i hi =>
    (numbered_after_empty .simple history).indexFits_of_length hr rfl hsteps hi
  have hforks : F.Forks 2 0 1 0 1 := .members rfl rfl (by decide)
  have h := (keys_agree_iff_listed_alike .plain rfl history 2 hr hfits).2.1 2 0 1 0 1
    (root_top rfl) hforks
  exact ⟨⟨rfl, hr, hfits⟩, hforks, h.1, h.2⟩

/-- Of two texts, the first of which is listed again at the end, the first one has the greater key
    and comes first by ancestry; so a union has two orders. -/
theorem listed_again_behind_others :
    let history : List Event := [.add (.textOf "a"), .add (.textOf "b"),
      .add ((NodeContent.elementNamed "e").withMembers [] [] [0, 1, 0])]
    let F := (empty .simple).after history
    let G := (empty .plain).after history
    F.KeysCompare 0 1 .gt ∧ G.compareByAncestry 0 1 = .ok .lt ∧
      (Stream.combine .union F [0] [1]).2 ≠ (Stream.combine .union G [0] [1]).2 := by
  intro history F G
  refine ⟨⟨4294967299, 4294967298, ?_, ?_, by decide⟩, by decide +kernel, ?_⟩
  · decide +kernel
  · decide +kernel
  · have hplain : (Stream.combine .union G [0] [1]).2 = [0, 1] :=
      List.mergeSort_of_pairwise (l := [0, 1]) (by decide +kernel)
    -- With keys the texts are sorted by their last places, so not in this order.
    have hF : F.Numbered := numbered_after_empty .simple history
    have hr : F.alive 2 = true := by decide
    have hsorted := hF.pairwise_last rfl (l := [0, 1]) hr (by decide +kernel) fun i hi =>
      hF.indexFits_of_length hr rfl (by decide +kernel) hi
    rw [hplain]
    intro heq
    rw [show (Forest.inDocumentOrder _ [0, 1]).2 = [0, 1] from heq] at hsorted
    exact absurd hsorted (by decide +kernel)

end XPathData.Forest
