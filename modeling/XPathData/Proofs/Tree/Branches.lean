import XPathData.Proofs.Tree.Growth
import XPathData.Tree.Build

/-! # Branches

  Of two nodes in one tree, one lies on the way from the root to the other, or both lie in
  different branches below a node that lists both branches. Comparison by ancestry tells these
  cases apart: what is above comes first, and branches come as they are listed. So it is the
  preorder of the tree.

  * `Forest.Forks` — two nodes lie in different branches below a node
  * `Forest.above_or_forks` — how two nodes of one tree can lie
  * `Forest.ancestry_orders_trees` — comparison by ancestry orders each tree, and only trees
-/

namespace XPathData.Forest

variable {F : Forest} {a b c d i p : NodeId}

/-! ### Above and below -/

theorem mem_ancestors_self (F : Forest) (i : NodeId) : i ∈ F.ancestors i := by
  rw [ancestors]
  split <;> exact List.mem_cons_self

theorem mem_ancestors_below (hp : (F.node i).parent = some p) :
    a ∈ F.ancestors i ↔ a = i ∨ a ∈ F.ancestors p := by
  rw [ancestors_below hp, List.mem_cons]

/-- What is above a node has the parent of the node above it. -/
theorem mem_ancestors_of_parent (ha : a ∈ F.ancestors b) (hp : (F.node a).parent = some p) :
    p ∈ F.ancestors b := by
  induction b using F.parent_induction with
  | top b hb =>
    rw [ancestors_top hb, List.mem_singleton] at ha
    subst ha
    rw [hb] at hp
    cases hp
  | below b q hb ih =>
    rw [mem_ancestors_below hb] at ha ⊢
    rcases ha with rfl | ha
    · have hpq : q = p := Option.some.inj (hb.symm.trans hp)
      exact .inr (hpq ▸ F.mem_ancestors_self p)
    · exact .inr (ih ha)

/-- The preorder of a node holds the nodes that it is above. -/
theorem mem_preorder_iff_mem_ancestors : b ∈ F.preorder a ↔ a ∈ F.ancestors b := by
  constructor
  · intro h
    induction a using Nat.strongRecOn with
    | ind a ih =>
      rcases mem_preorder_iff.1 h with rfl | ⟨c, hc, hb⟩
      · exact F.mem_ancestors_self b
      · exact mem_ancestors_of_parent (ih c (lt_parent_node hc).1 hb) hc
  · intro h
    induction b using F.parent_induction with
    | top b hb =>
      rw [ancestors_top hb, List.mem_singleton] at h
      subst h
      exact F.mem_preorder_self a
    | below b q hb ih =>
      rcases (mem_ancestors_below hb).1 h with rfl | h
      · exact F.mem_preorder_self a
      · exact mem_preorder_below (ih h) hb

theorem root_eq_of_mem_ancestors (h : a ∈ F.ancestors b) : F.root b = F.root a :=
  root_eq_of_mem_preorder (mem_preorder_iff_mem_ancestors.2 h)

/-! ### Forks -/

/-- Below `p` the nodes `a` and `b` lie in the different branches `c` and `d`. -/
structure Forks (F : Forest) (p c d a b : NodeId) : Prop where
  left : (F.node c).parent = some p
  right : (F.node d).parent = some p
  ne : c ≠ d
  above_left : c ∈ F.ancestors a
  above_right : d ∈ F.ancestors b

/-- Two members of a node that belong to it are branches themselves. -/
theorem Forks.members (hc : (F.node c).parent = some p) (hd : (F.node d).parent = some p)
    (hne : c ≠ d) : F.Forks p c d c d :=
  ⟨hc, hd, hne, F.mem_ancestors_self c, F.mem_ancestors_self d⟩

theorem Forks.root_left (h : F.Forks p c d a b) : F.root a = F.root p := by
  rw [root_eq_of_mem_ancestors h.above_left, root_below h.left]

theorem Forks.root_right (h : F.Forks p c d a b) : F.root b = F.root p := by
  rw [root_eq_of_mem_ancestors h.above_right, root_below h.right]

/-- Of two nodes below a node one is above the other, or they lie in different branches. -/
theorem above_or_forks_below (ha : a ∈ F.preorder i) (hb : b ∈ F.preorder i) :
    a ∈ F.ancestors b ∨ b ∈ F.ancestors a ∨ ∃ p c d, F.Forks p c d a b := by
  induction i using Nat.strongRecOn with
  | ind i ih =>
    rcases mem_preorder_iff.1 ha with rfl | ⟨c, hc, hac⟩
    · exact .inl (mem_preorder_iff_mem_ancestors.1 hb)
    · rcases mem_preorder_iff.1 hb with rfl | ⟨d, hd, hbd⟩
      · exact .inr (.inl (mem_preorder_iff_mem_ancestors.1 ha))
      · by_cases hcd : c = d
        · -- Both nodes are in one branch, so they part further down or not at all.
          subst hcd
          exact ih c (lt_parent_node hc).1 hac hbd
        · exact .inr (.inr ⟨i, c, d, hc, hd, hcd, mem_preorder_iff_mem_ancestors.1 hac,
            mem_preorder_iff_mem_ancestors.1 hbd⟩)

theorem above_or_forks (h : F.root a = F.root b) :
    a ∈ F.ancestors b ∨ b ∈ F.ancestors a ∨ ∃ p c d, F.Forks p c d a b :=
  above_or_forks_below (F.mem_preorder_root a) (h ▸ F.mem_preorder_root b)

/-! ### Comparison -/

theorem compareByAncestry_self (F : Forest) (a : NodeId) : F.compareByAncestry a a = .ok .eq := by
  rw [compareByAncestry_eq rfl]
  exact congrArg Except.ok Std.ReflCmp.compare_self

/-- Turning the nodes round turns the order round. -/
theorem compareByAncestry_swap {o : Ordering} (hroot : F.root a = F.root b)
    (h : F.compareByAncestry a b = .ok o) : F.compareByAncestry b a = .ok o.swap := by
  have hswap : compare (F.address b) (F.address a) = (compare (F.address a) (F.address b)).swap :=
    Std.OrientedCmp.eq_swap
  rw [compareByAncestry_eq hroot] at h
  rw [compareByAncestry_eq hroot.symm, hswap, Except.ok.inj h]

/-- What is above a node comes before it. -/
theorem compareByAncestry_above (h : a ∈ F.ancestors b) (hne : a ≠ b) :
    F.compareByAncestry a b = .ok .lt := by
  have hroot := root_eq_of_mem_ancestors h
  obtain ⟨w, hw⟩ := address_of_mem_preorder (mem_preorder_iff_mem_ancestors.2 h)
  rw [compareByAncestry_eq hroot.symm]
  cases w with
  | nil =>
    rw [List.append_nil] at hw
    exact absurd (address_inj hroot.symm hw.symm) hne
  | cons k w => rw [hw, compare_self_append]

/-- The address of a node in a branch goes through the position of the branch. -/
theorem address_in_branch (hc : (F.node c).parent = some p) (h : c ∈ F.ancestors a) :
    ∃ w, F.address a = F.address p ++ F.position p c :: w := by
  obtain ⟨w, hw⟩ := address_of_mem_preorder (mem_preorder_iff_mem_ancestors.2 h)
  refine ⟨w, ?_⟩
  rw [hw, address_below hc, List.append_assoc]
  rfl

/-- Nodes in different branches come as the branches do. -/
theorem Forks.compareByAncestry_eq (h : F.Forks p c d a b) :
    F.compareByAncestry a b = .ok (compare (F.position p c) (F.position p d)) := by
  obtain ⟨u, hu⟩ := address_in_branch h.left h.above_left
  obtain ⟨v, hv⟩ := address_in_branch h.right h.above_right
  have hne : compare (F.position p c) (F.position p d) ≠ .eq := by
    rw [Ne, Nat.compare_eq_eq]
    exact fun heq => h.ne ((List.idxOf_inj (mem_members_parent h.left)).1 heq)
  rw [Forest.compareByAncestry_eq (h.root_left.trans h.root_right.symm), hu, hv,
    compare_append_append, List.compare_cons_cons]
  revert hne
  cases compare (F.position p c) (F.position p d) <;> simp

/-! ### The order of a tree -/

/-- In one tree the comparison by ancestry has an answer, which is that two nodes are equal only
    for a node and itself; it turns round with the nodes and goes on from one pair to the next. A
    node comes before all that belongs to it and all that is below it, and nodes in different
    branches come as the branches are listed first: among the namespaces, then the attributes,
    then the children. Nodes of different trees have no order. -/
theorem ancestry_orders_trees (F : Forest) :
    (∀ a b, F.root a = F.root b → ∃ o, F.compareByAncestry a b = .ok o ∧
      F.compareByAncestry b a = .ok o.swap ∧ (o = .eq ↔ a = b)) ∧
    (∀ a b c o, F.root a = F.root b → F.root b = F.root c →
      F.compareByAncestry a b = .ok o → F.compareByAncestry b c = .ok o →
        F.compareByAncestry a c = .ok o) ∧
    (∀ p c, (F.node c).parent = some p →
      c ∈ (F.node p).namespaces ++ (F.node p).attributes ++ (F.node p).children ∧
        F.compareByAncestry p c = .ok .lt) ∧
    (∀ a b, a ∈ F.ancestors b → a ≠ b → F.compareByAncestry a b = .ok .lt) ∧
    (∀ p c d a b, F.Forks p c d a b → ∃ k m,
      ((F.node p).namespaces ++ (F.node p).attributes ++ (F.node p).children).idxOf? c = some k ∧
      ((F.node p).namespaces ++ (F.node p).attributes ++ (F.node p).children).idxOf? d = some m ∧
      F.compareByAncestry a b = .ok (compare k m)) ∧
    (∀ a b, F.root a ≠ F.root b → ∃ e, F.compareByAncestry a b = .error e ∧
      e.code = ErrorCode.unidentified.name) := by
  refine ⟨?_, ?_, ?_, ?_, ?_, ?_⟩
  · intro a b hroot
    have heq := compareByAncestry_eq hroot
    refine ⟨_, heq, compareByAncestry_swap hroot heq, ?_, ?_⟩
    · intro ho
      exact address_inj hroot (Std.LawfulEqCmp.eq_of_compare ho)
    · rintro rfl
      exact Std.ReflCmp.compare_self
  · intro a b c o hab hbc hleft hright
    rw [compareByAncestry_eq hab] at hleft
    rw [compareByAncestry_eq hbc] at hright
    rw [compareByAncestry_eq (hab.trans hbc)]
    have hleft := Except.ok.inj hleft
    have hright := Except.ok.inj hright
    congr 1
    cases o with
    | lt => exact Std.TransCmp.lt_trans hleft hright
    | eq => exact Std.TransCmp.eq_trans hleft hright
    | gt => exact Std.TransCmp.gt_trans hleft hright
  · intro p c hc
    have habove : p ∈ F.ancestors c := (mem_ancestors_below hc).2 (.inr (F.mem_ancestors_self p))
    have hne : p ≠ c := Nat.ne_of_gt (lt_parent_node hc).1
    exact ⟨mem_members_parent hc, compareByAncestry_above habove hne⟩
  · intro a b habove hne
    exact compareByAncestry_above habove hne
  · intro p c d a b hforks
    exact ⟨_, _, idxOf?_of_mem (mem_members_parent hforks.left),
      idxOf?_of_mem (mem_members_parent hforks.right), hforks.compareByAncestry_eq⟩
  · intro a b hroot
    exact ⟨_, compareByAncestry_of_ne hroot, rfl⟩

/-- An element with an attribute and two texts, of which one is listed again at the end, and a text
    in a tree of its own. -/
theorem ancestry_orders_trees_listed_again :
    let F := (empty .plain).after [.add (.attributeNamed "id" "1"), .add (.textOf "a"),
      .add (.textOf "b"), .add ((NodeContent.elementNamed "e").withMembers [] [0] [1, 2, 1]),
      .add (.textOf "c")]
    F.compareByAncestry 3 0 = .ok .lt ∧ F.compareByAncestry 0 2 = .ok .lt ∧
      F.compareByAncestry 1 2 = .ok .lt ∧
      ∃ e, F.compareByAncestry 1 4 = .error e ∧ e.code = ErrorCode.unidentified.name := by
  intro F
  obtain ⟨-, htrans, hmember, -, hforks, hother⟩ := ancestry_orders_trees F
  obtain ⟨k, m, hk, hm, hfirst⟩ := hforks 3 0 1 0 1 (.members rfl rfl (by decide))
  obtain ⟨k', m', hk', hm', hsecond⟩ := hforks 3 1 2 1 2 (.members rfl rfl (by decide))
  cases (show some 0 = some k from hk)
  cases (show some 1 = some m from hm)
  cases (show some 1 = some k' from hk')
  cases (show some 2 = some m' from hm')
  have hroot : ∀ i, (F.node i).parent = some 3 → F.root i = 3 := by
    intro i hi
    rw [root_below hi, root_top rfl]
  have hne : F.root 1 ≠ F.root 4 := by
    rw [hroot 1 rfl, root_top (i := 4) rfl]
    decide
  refine ⟨(hmember 3 0 rfl).2, ?_, hsecond, hother 1 4 hne⟩
  refine htrans 0 1 2 .lt ?_ ?_ hfirst hsecond
  · rw [hroot 0 rfl, hroot 1 rfl]
  · rw [hroot 1 rfl, hroot 2 rfl]

end XPathData.Forest
