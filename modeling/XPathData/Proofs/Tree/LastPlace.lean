import XPathData.Proofs.Tree.Branches

/-! # Last places in a list

  A list may have a node several times, and what is written for a node each time is overwritten
  the next time: the last place stays. Where each node of a list stands for a piece of nodes of its
  own, the last places in all pieces compare as those of the pieces do, or in one piece as in it.
  So it is with the nodes that a numbering goes through, of which each stands for those below it.

  * `lastIdxOf` — the last place of a node in a list
  * `compare_lastIdxOf_piece` — two nodes in one piece
  * `compare_lastIdxOf_pieces` — two nodes in different pieces
  * `Forest.Forks.compare_last` — two nodes in different branches of a tree
-/

namespace XPathData

variable {a b c d : NodeId} {l m : List NodeId} {f : NodeId → List NodeId}

/-- The place at which a list has a node for the last time. -/
def lastIdxOf (a : NodeId) : List NodeId → Nat
  | [] => 0
  | _ :: l => if a ∈ l then lastIdxOf a l + 1 else 0

theorem lastIdxOf_cons_of_mem (h : a ∈ l) : lastIdxOf a (b :: l) = lastIdxOf a l + 1 := if_pos h

theorem lastIdxOf_cons_of_not_mem (h : a ∉ l) : lastIdxOf a (b :: l) = 0 := if_neg h

theorem lastIdxOf_of_not_mem (h : a ∉ l) : lastIdxOf a l = 0 := by
  cases l with
  | nil => rfl
  | cons b l => exact lastIdxOf_cons_of_not_mem fun hmem => h (List.mem_cons_of_mem b hmem)

theorem getElem?_lastIdxOf (h : a ∈ l) : l[lastIdxOf a l]? = some a := by
  induction l with
  | nil => cases h
  | cons b l ih =>
    by_cases hmem : a ∈ l
    · rw [lastIdxOf_cons_of_mem hmem, List.getElem?_cons_succ, ih hmem]
    · rw [lastIdxOf_cons_of_not_mem hmem, List.getElem?_cons_zero]
      exact congrArg some ((List.mem_cons.1 h).resolve_right hmem).symm

theorem lastIdxOf_lt_length (h : a ∈ l) : lastIdxOf a l < l.length :=
  (List.getElem?_eq_some_iff.1 (getElem?_lastIdxOf h)).1

theorem lastIdxOf_inj (ha : a ∈ l) (hb : b ∈ l) : lastIdxOf a l = lastIdxOf b l ↔ a = b := by
  constructor
  · intro h
    have hget := getElem?_lastIdxOf ha
    rw [h, getElem?_lastIdxOf hb] at hget
    exact (Option.some.inj hget).symm
  · rintro rfl
    rfl

theorem lastIdxOf_append_of_mem (h : a ∈ m) :
    lastIdxOf a (l ++ m) = l.length + lastIdxOf a m := by
  induction l with
  | nil => rw [List.nil_append, List.length_nil, Nat.zero_add]
  | cons b l ih =>
    rw [List.cons_append, lastIdxOf_cons_of_mem (List.mem_append_right l h), ih, List.length_cons]
    omega

theorem lastIdxOf_append_of_not_mem (h : a ∉ m) : lastIdxOf a (l ++ m) = lastIdxOf a l := by
  induction l with
  | nil => exact lastIdxOf_of_not_mem h
  | cons b l ih =>
    rw [List.cons_append]
    by_cases hmem : a ∈ l
    · rw [lastIdxOf_cons_of_mem hmem, lastIdxOf_cons_of_mem (List.mem_append_left m hmem), ih]
    · have hnot : a ∉ l ++ m := fun hin => (List.mem_append.1 hin).elim hmem h
      rw [lastIdxOf_cons_of_not_mem hmem, lastIdxOf_cons_of_not_mem hnot]

theorem compare_add_left (n x y : Nat) : compare (n + x) (n + y) = compare x y := by
  rw [Nat.compare_eq_ite_lt, Nat.compare_eq_ite_lt]
  simp only [Nat.add_lt_add_iff_left]

/-! ### Pieces -/

/-- A node of a piece is not in the pieces of a list without the node that the piece stands
    for. -/
theorem not_mem_pieces (hf : ∀ c d x, x ∈ f c → x ∈ f d → c = d) (ha : a ∈ f c) (hc : c ∉ l) :
    a ∉ l.flatMap f := by
  intro hmem
  obtain ⟨d, hd, had⟩ := List.mem_flatMap.1 hmem
  exact hc (hf c d a ha had ▸ hd)

theorem compare_lastIdxOf_piece (hf : ∀ c d x, x ∈ f c → x ∈ f d → c = d) (hc : c ∈ l)
    (ha : a ∈ f c) (hb : b ∈ f c) :
    compare (lastIdxOf a (l.flatMap f)) (lastIdxOf b (l.flatMap f)) =
      compare (lastIdxOf a (f c)) (lastIdxOf b (f c)) := by
  induction l with
  | nil => cases hc
  | cons e l ih =>
    rw [List.flatMap_cons]
    by_cases hmem : c ∈ l
    · rw [lastIdxOf_append_of_mem (List.mem_flatMap.2 ⟨c, hmem, ha⟩),
        lastIdxOf_append_of_mem (List.mem_flatMap.2 ⟨c, hmem, hb⟩), compare_add_left]
      exact ih hmem
    · -- The first piece is the last one for `c`.
      obtain rfl := (List.mem_cons.1 hc).resolve_right hmem
      rw [lastIdxOf_append_of_not_mem (not_mem_pieces hf ha hmem),
        lastIdxOf_append_of_not_mem (not_mem_pieces hf hb hmem)]

theorem lastIdxOf_pieces_lt (hf : ∀ c d x, x ∈ f c → x ∈ f d → c = d) (hc : c ∈ l)
    (ha : a ∈ f c) (hb : b ∈ f d) (hlt : lastIdxOf c l < lastIdxOf d l) :
    lastIdxOf a (l.flatMap f) < lastIdxOf b (l.flatMap f) := by
  induction l with
  | nil => cases hc
  | cons e l ih =>
    have hd : d ∈ l := by
      by_contra hd
      rw [lastIdxOf_cons_of_not_mem hd] at hlt
      exact Nat.not_lt_zero _ hlt
    rw [List.flatMap_cons, lastIdxOf_append_of_mem (List.mem_flatMap.2 ⟨d, hd, hb⟩)]
    by_cases hmem : c ∈ l
    · rw [lastIdxOf_cons_of_mem hmem, lastIdxOf_cons_of_mem hd] at hlt
      rw [lastIdxOf_append_of_mem (List.mem_flatMap.2 ⟨c, hmem, ha⟩)]
      exact Nat.add_lt_add_left (ih hmem (Nat.lt_of_succ_lt_succ hlt)) _
    · obtain rfl := (List.mem_cons.1 hc).resolve_right hmem
      rw [lastIdxOf_append_of_not_mem (not_mem_pieces hf ha hmem)]
      exact Nat.lt_of_lt_of_le (lastIdxOf_lt_length ha) (Nat.le_add_right _ _)

theorem compare_lastIdxOf_pieces (hf : ∀ c d x, x ∈ f c → x ∈ f d → c = d) (hc : c ∈ l)
    (hd : d ∈ l) (hcd : c ≠ d) (ha : a ∈ f c) (hb : b ∈ f d) :
    compare (lastIdxOf a (l.flatMap f)) (lastIdxOf b (l.flatMap f)) =
      compare (lastIdxOf c l) (lastIdxOf d l) := by
  rcases Nat.lt_trichotomy (lastIdxOf c l) (lastIdxOf d l) with hlt | heq | hgt
  · rw [Nat.compare_eq_lt.2 hlt, Nat.compare_eq_lt.2 (lastIdxOf_pieces_lt hf hc ha hb hlt)]
  · exact absurd ((lastIdxOf_inj hc hd).1 heq) hcd
  · rw [Nat.compare_eq_gt.2 hgt, Nat.compare_eq_gt.2 (lastIdxOf_pieces_lt hf hd hb ha hgt)]

namespace Forest

variable {F : Forest} {i p r : NodeId}

/-! ### Branches in the preorder -/

/-- The nodes that are numbered when `i` comes to its member `c`. -/
def branch (F : Forest) (i c : NodeId) : List NodeId :=
  if (F.node c).parent = some i then F.preorder c else []

theorem mem_branch : a ∈ F.branch i c ↔ (F.node c).parent = some i ∧ c ∈ F.ancestors a := by
  unfold branch
  split
  · next hc => simp [hc, mem_preorder_iff_mem_ancestors]
  · next hc => simp [hc]

theorem branch_of_parent (hc : (F.node c).parent = some i) : F.branch i c = F.preorder c :=
  if_pos hc

/-- A node is in one branch below another node. -/
theorem not_forks_self : ¬ F.Forks p c d a a := by
  intro h
  have hself := h.compareByAncestry_eq
  rw [compareByAncestry_self] at hself
  have hpositions := Nat.compare_eq_eq.1 (Except.ok.inj hself).symm
  exact h.ne ((List.idxOf_inj (mem_members_parent h.left)).1 hpositions)

theorem branches_apart (i c d a : NodeId) (hc : a ∈ F.branch i c) (hd : a ∈ F.branch i d) :
    c = d := by
  by_contra hne
  obtain ⟨hcp, hca⟩ := mem_branch.1 hc
  obtain ⟨hdp, hda⟩ := mem_branch.1 hd
  exact not_forks_self ⟨hcp, hdp, hne, hca, hda⟩

/-- The numbering goes through all members and leaves out those that belong to other nodes. -/
theorem preorder_eq_branches (F : Forest) (i : NodeId) :
    F.preorder i = i :: (F.node i).members.flatMap (F.branch i) := by
  rw [preorder_eq, owned]
  congr 1
  induction (F.node i).members with
  | nil => rfl
  | cons c l ih =>
    rw [List.flatMap_cons, ← ih]
    by_cases hc : (F.node c).parent = some i
    · rw [List.filter_cons_of_pos (by simpa using hc), List.flatMap_cons, branch_of_parent hc]
    · rw [List.filter_cons_of_neg (by simpa using hc), branch, if_neg hc, List.nil_append]

/-! ### Last places -/

/-- The place where a node lists another one for the last time. -/
def lastPosition (F : Forest) (p i : NodeId) : Nat := lastIdxOf i (F.node p).members

theorem lastIdxOf_preorder_self (F : Forest) (i : NodeId) : lastIdxOf i (F.preorder i) = 0 := by
  rw [preorder_eq]
  refine lastIdxOf_cons_of_not_mem fun hmem => ?_
  -- What is below a node has a smaller number.
  obtain ⟨c, hc, hi⟩ := List.mem_flatMap.1 hmem
  exact Nat.lt_irrefl i (Nat.lt_of_le_of_lt (le_of_mem_preorder hi)
    (members_node_lt (mem_owned.1 hc).1))

theorem lastIdxOf_preorder_below (h : a ∈ (F.node i).members.flatMap (F.branch i)) :
    lastIdxOf a (F.preorder i) = lastIdxOf a ((F.node i).members.flatMap (F.branch i)) + 1 := by
  rw [preorder_eq_branches]
  exact lastIdxOf_cons_of_mem h

theorem mem_branches (hc : (F.node c).parent = some i) (ha : c ∈ F.ancestors a) :
    a ∈ (F.node i).members.flatMap (F.branch i) :=
  List.mem_flatMap.2 ⟨c, mem_members_parent hc, mem_branch.2 ⟨hc, ha⟩⟩

/-- Inside of a branch the last places compare as in the preorder of the branch. -/
theorem compare_last_parent (hc : (F.node c).parent = some i) (ha : c ∈ F.ancestors a)
    (hb : c ∈ F.ancestors b) :
    compare (lastIdxOf a (F.preorder i)) (lastIdxOf b (F.preorder i)) =
      compare (lastIdxOf a (F.preorder c)) (lastIdxOf b (F.preorder c)) := by
  rw [lastIdxOf_preorder_below (mem_branches hc ha), lastIdxOf_preorder_below (mem_branches hc hb),
    Nat.add_comm _ 1, Nat.add_comm _ 1, compare_add_left, ← branch_of_parent hc]
  exact compare_lastIdxOf_piece (F.branches_apart i) (mem_members_parent hc)
    (mem_branch.2 ⟨hc, ha⟩) (mem_branch.2 ⟨hc, hb⟩)

/-- What is above the branch makes no difference. -/
theorem compare_last_root (ha : p ∈ F.ancestors a) (hb : p ∈ F.ancestors b) :
    compare (lastIdxOf a (F.preorder (F.root p))) (lastIdxOf b (F.preorder (F.root p))) =
      compare (lastIdxOf a (F.preorder p)) (lastIdxOf b (F.preorder p)) := by
  induction p using F.parent_induction with
  | top p hp => rw [root_top hp]
  | below p q hp ih =>
    rw [root_below hp, ih (mem_ancestors_of_parent ha hp) (mem_ancestors_of_parent hb hp),
      compare_last_parent hp ha hb]

/-- What is above a node has the smaller last place. -/
theorem compare_last_above (h : a ∈ F.ancestors b) (hne : a ≠ b) :
    compare (lastIdxOf a (F.preorder (F.root b))) (lastIdxOf b (F.preorder (F.root b))) = .lt := by
  rw [root_eq_of_mem_ancestors h, compare_last_root (F.mem_ancestors_self a) h,
    lastIdxOf_preorder_self, Nat.compare_eq_lt]
  refine Nat.pos_of_ne_zero fun hzero => hne ?_
  rw [← F.lastIdxOf_preorder_self a] at hzero
  exact ((lastIdxOf_inj (mem_preorder_iff_mem_ancestors.2 h) (F.mem_preorder_self a)).1 hzero).symm

/-- Nodes in different branches have their last places as the branches are listed last. -/
theorem Forks.compare_last (h : F.Forks p c d a b) :
    compare (lastIdxOf a (F.preorder (F.root p))) (lastIdxOf b (F.preorder (F.root p))) =
      compare (F.lastPosition p c) (F.lastPosition p d) := by
  have hpa : p ∈ F.ancestors a := mem_ancestors_of_parent h.above_left h.left
  have hpb : p ∈ F.ancestors b := mem_ancestors_of_parent h.above_right h.right
  rw [compare_last_root hpa hpb, lastIdxOf_preorder_below (mem_branches h.left h.above_left),
    lastIdxOf_preorder_below (mem_branches h.right h.above_right), Nat.add_comm _ 1,
    Nat.add_comm _ 1, compare_add_left]
  exact compare_lastIdxOf_pieces (F.branches_apart p) (mem_members_parent h.left)
    (mem_members_parent h.right) h.ne (mem_branch.2 ⟨h.left, h.above_left⟩)
    (mem_branch.2 ⟨h.right, h.above_right⟩)

end Forest

end XPathData
