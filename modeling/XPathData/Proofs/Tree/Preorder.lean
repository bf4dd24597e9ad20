import XPathData.Proofs.Tree.Ancestry

/-! # Preorder

  The preorder of a root holds exactly the nodes of its tree. Where nobody lists a node of its
  own twice, it holds each of them once and in the order of the addresses, so that places in
  the preorder compare as ancestry does.

  * `Forest.mem_preorder_root` — every node is in the preorder of its root
  * `Forest.preorder_pairwise` — the preorder goes up in the order of addresses
  * `Forest.compare_index` — places in the preorder compare as addresses
-/

namespace XPathData.Forest

variable {F : Forest} {i j p r c : NodeId}

/-! ### One equation for all kinds -/

theorem members_eq_nil_of_namespace (h : c ∈ (F.node i).namespaces) : (F.node c).members = [] := by
  apply F.wellFormed.members_leaf
  rw [F.wellFormed.namespaces_kind i c h]
  rfl

theorem members_eq_nil_of_attribute (h : c ∈ (F.node i).attributes) : (F.node c).members = [] := by
  apply F.wellFormed.members_leaf
  rw [F.wellFormed.attributes_kind i c h]
  rfl

theorem preorder_of_members_nil (h : (F.node c).members = []) : F.preorder c = [c] := by
  obtain ⟨⟨hns, hat⟩, hch⟩ : ((F.node c).namespaces = [] ∧ (F.node c).attributes = []) ∧
      (F.node c).children = [] := by
    simpa [NodeContent.members, and_assoc] using h
  rw [preorder]
  simp [owned, hns, hat, hch]

theorem mem_owned {l : List NodeId} :
    c ∈ F.owned i l ↔ c ∈ l ∧ (F.node c).parent = some i := by
  simp [owned]

theorem flatMap_eq_self {l : List NodeId} (h : ∀ c ∈ l, F.preorder c = [c]) :
    l.flatMap F.preorder = l := by
  induction l with
  | nil => rfl
  | cons c l ih =>
    rw [List.flatMap_cons, h c List.mem_cons_self, ih fun d hd => h d (List.mem_cons_of_mem c hd)]
    rfl

/-- Namespaces and attributes have nothing below them, so they are numbered like children. -/
theorem preorder_eq (F : Forest) (i : NodeId) :
    F.preorder i = i :: (F.owned i (F.node i).members).flatMap F.preorder := by
  have hns : (F.owned i (F.node i).namespaces).flatMap F.preorder =
      F.owned i (F.node i).namespaces := flatMap_eq_self fun c hc =>
    preorder_of_members_nil (members_eq_nil_of_namespace (mem_owned.1 hc).1)
  have hat : (F.owned i (F.node i).attributes).flatMap F.preorder =
      F.owned i (F.node i).attributes := flatMap_eq_self fun c hc =>
    preorder_of_members_nil (members_eq_nil_of_attribute (mem_owned.1 hc).1)
  have hsplit : F.owned i (F.node i).members = F.owned i (F.node i).namespaces ++
      F.owned i (F.node i).attributes ++ F.owned i (F.node i).children := by
    simp only [owned, NodeContent.members, List.filter_append]
  rw [preorder, hsplit, List.flatMap_append, List.flatMap_append, hns, hat]
  congr 2
  conv_rhs => rw [← List.attach_map_subtype_val (F.owned i (F.node i).children)]
  rw [List.flatMap_map]

/-! ### The nodes of a tree -/

theorem mem_preorder_self (F : Forest) (i : NodeId) : i ∈ F.preorder i := by
  rw [preorder_eq]
  exact List.mem_cons_self

/-- A node below another one is that one, or is below a node that belongs to it. -/
theorem mem_preorder_iff :
    j ∈ F.preorder i ↔ j = i ∨ ∃ c, (F.node c).parent = some i ∧ j ∈ F.preorder c := by
  rw [preorder_eq, List.mem_cons, List.mem_flatMap]
  constructor
  · rintro (rfl | ⟨c, hc, hj⟩)
    · exact .inl rfl
    · exact .inr ⟨c, (mem_owned.1 hc).2, hj⟩
  · rintro (rfl | ⟨c, hc, hj⟩)
    · exact .inl rfl
    · exact .inr ⟨c, mem_owned.2 ⟨mem_members_parent hc, hc⟩, hj⟩

theorem le_of_mem_preorder (h : j ∈ F.preorder i) : j ≤ i := by
  induction i using Nat.strongRecOn with
  | ind i ih =>
    rcases mem_preorder_iff.1 h with rfl | ⟨c, hc, hj⟩
    · exact Nat.le_refl _
    · have hlt := (lt_parent_node hc).1
      exact Nat.le_trans (ih c hlt hj) (Nat.le_of_lt hlt)

theorem root_eq_of_mem_preorder (h : j ∈ F.preorder i) : F.root j = F.root i := by
  induction i using Nat.strongRecOn with
  | ind i ih =>
    rcases mem_preorder_iff.1 h with rfl | ⟨c, hc, hj⟩
    · rfl
    · rw [ih c (lt_parent_node hc).1 hj, root_below hc]

/-- What belongs to a node of a preorder is in it too. -/
theorem mem_preorder_below (h : p ∈ F.preorder i) (hp : (F.node j).parent = some p) :
    j ∈ F.preorder i := by
  induction i using Nat.strongRecOn with
  | ind i ih =>
    rcases mem_preorder_iff.1 h with rfl | ⟨c, hc, hj⟩
    · exact mem_preorder_iff.2 (.inr ⟨j, hp, F.mem_preorder_self j⟩)
    · exact mem_preorder_iff.2 (.inr ⟨c, hc, ih c (lt_parent_node hc).1 hj⟩)

theorem mem_preorder_trans (hj : j ∈ F.preorder i) (hi : i ∈ F.preorder r) : j ∈ F.preorder r := by
  induction i using Nat.strongRecOn with
  | ind i ih =>
    rcases mem_preorder_iff.1 hj with rfl | ⟨c, hc, hj⟩
    · exact hi
    · exact ih c (lt_parent_node hc).1 hj (mem_preorder_below hi hc)

theorem mem_preorder_root (F : Forest) (i : NodeId) : i ∈ F.preorder (F.root i) := by
  induction i using F.parent_induction with
  | top i hp =>
    rw [root_top hp]
    exact F.mem_preorder_self i
  | below i p hp ih =>
    rw [root_below hp]
    exact mem_preorder_below ih hp

/-! ### Words -/

theorem compare_append_append (w u v : List Nat) : compare (w ++ u) (w ++ v) = compare u v := by
  induction w with
  | nil => rfl
  | cons k w ih =>
    rw [List.cons_append, List.cons_append, List.compare_cons_cons, ih, Nat.compare_eq_eq.2 rfl]
    rfl

theorem compare_self_append (w v : List Nat) (k : Nat) : compare w (w ++ k :: v) = .lt := by
  have h := compare_append_append w [] (k :: v)
  rwa [List.append_nil] at h

/-- Addresses below two members of a node compare as the members do. -/
theorem compare_append_cons (w u v : List Nat) {k m : Nat} (h : k < m) :
    compare (w ++ k :: u) (w ++ m :: v) = .lt := by
  rw [compare_append_append, List.compare_cons_cons, Nat.compare_eq_lt.2 h]
  rfl

theorem address_of_mem_preorder (h : j ∈ F.preorder i) : ∃ w, F.address j = F.address i ++ w := by
  induction i using Nat.strongRecOn with
  | ind i ih =>
    rcases mem_preorder_iff.1 h with rfl | ⟨c, hc, hj⟩
    · exact ⟨[], (List.append_nil _).symm⟩
    · obtain ⟨w, hw⟩ := ih c (lt_parent_node hc).1 hj
      refine ⟨F.position i c :: w, ?_⟩
      rw [hw, address_below hc, List.append_assoc]
      rfl

/-! ### The order of a preorder -/

/-- No node lists one of those that belong to it twice. -/
def ListsOnce (F : Forest) : Prop :=
  ∀ i p, F.owner i = some p → (F.node p).members.count i = 1

theorem pairwise_idxOf_filter {l : List NodeId} {q : NodeId → Bool}
    (h : ∀ c ∈ l, q c = true → l.count c = 1) :
    (l.filter q).Pairwise fun c d => l.idxOf c < l.idxOf d := by
  induction l with
  | nil => exact .nil
  | cons a l ih =>
    -- What is left behind the first member is not that member again.
    have hne : ∀ c ∈ l.filter q, c ≠ a := by
      rintro c hc rfl
      obtain ⟨hmem, hq⟩ := List.mem_filter.1 hc
      have hcount := h c List.mem_cons_self hq
      have hpos : 0 < l.count c := List.count_pos_iff.2 hmem
      rw [List.count_cons_self] at hcount
      omega
    have hidx : ∀ c ∈ l.filter q, (a :: l).idxOf c = l.idxOf c + 1 := fun c hc =>
      List.idxOf_cons_ne l (hne c hc).symm
    have hlater := ih fun c hc hq => by
      have hcount := h c (List.mem_cons_of_mem a hc) hq
      rwa [List.count_cons_of_ne (hne c (List.mem_filter.2 ⟨hc, hq⟩)).symm] at hcount
    have hshift : (l.filter q).Pairwise fun c d => (a :: l).idxOf c < (a :: l).idxOf d := by
      refine hlater.imp_of_mem fun hc hd hlt => ?_
      rw [hidx _ hc, hidx _ hd]
      exact Nat.succ_lt_succ hlt
    rw [List.filter_cons]
    split
    · refine List.Pairwise.cons (fun d hd => ?_) hshift
      rw [hidx d hd, List.idxOf_cons_self]
      exact Nat.succ_pos _
    · exact hshift

theorem pairwise_position_owned (h : F.ListsOnce) (i : NodeId) :
    (F.owned i (F.node i).members).Pairwise fun c d => F.position i c < F.position i d :=
  pairwise_idxOf_filter fun c _ hc => h c i (parent_node_eq_some_iff.1 (by simpa using hc)).1

/-- The preorder of a node goes up in the order of addresses. -/
theorem preorder_pairwise (h : F.ListsOnce) (i : NodeId) :
    (F.preorder i).Pairwise fun a b => compare (F.address a) (F.address b) = .lt := by
  induction i using Nat.strongRecOn with
  | ind i ih =>
    have hbelow : ∀ c ∈ F.owned i (F.node i).members, ∀ a ∈ F.preorder c,
        ∃ w, F.address a = F.address i ++ F.position i c :: w := by
      intro c hc a ha
      obtain ⟨w, hw⟩ := address_of_mem_preorder ha
      refine ⟨w, ?_⟩
      rw [hw, address_below (mem_owned.1 hc).2, List.append_assoc]
      rfl
    rw [preorder_eq]
    refine List.Pairwise.cons (fun b hb => ?_) ?_
    · -- The node itself comes before all that is below it.
      obtain ⟨c, hc, hb⟩ := List.mem_flatMap.1 hb
      obtain ⟨w, hw⟩ := hbelow c hc b hb
      rw [hw]
      exact compare_self_append _ _ _
    · -- What is below one member comes before what is below a later one.
      refine List.pairwise_flatMap.2 ⟨fun c hc => ih c (members_node_lt (mem_owned.1 hc).1), ?_⟩
      refine (pairwise_position_owned h i).imp_of_mem fun {c d} hc hd hlt a ha b hb => ?_
      obtain ⟨w, hw⟩ := hbelow c hc a ha
      obtain ⟨v, hv⟩ := hbelow d hd b hb
      rw [hw, hv]
      exact compare_append_cons _ _ _ hlt

/-- Places in the preorder of a node compare as the addresses of the nodes there. -/
theorem compare_index (h : F.ListsOnce) {a b : NodeId} {k m : Nat}
    (ha : (F.preorder i)[k]? = some a) (hb : (F.preorder i)[m]? = some b) :
    compare k m = compare (F.address a) (F.address b) := by
  obtain ⟨hk, rfl⟩ := List.getElem?_eq_some_iff.1 ha
  obtain ⟨hm, rfl⟩ := List.getElem?_eq_some_iff.1 hb
  have hsorted := List.pairwise_iff_getElem.1 (preorder_pairwise h i)
  rcases Nat.lt_trichotomy k m with hlt | rfl | hlt
  · rw [hsorted k m hk hm hlt, Nat.compare_eq_lt.2 hlt]
  · simp only [Std.ReflCmp.compare_self]
  · rw [Nat.compare_eq_gt.2 hlt, Std.OrientedCmp.gt_of_lt (hsorted m k hm hk hlt)]

end XPathData.Forest
