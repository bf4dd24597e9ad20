import Mathlib.Data.List.Nodup
import XPathData.Proofs.Tree.Preorder

/-! # Forests that grow

  Nodes are added, trees are numbered, and nodes go when nobody holds them any more, in any order.
  What a node lists stays as it is, and so does the node that it belongs to. A tree grows at the
  top, where a node takes it in, and falls apart at the top, where its root goes. The part below a
  node stays the same, and so does the order of two nodes as long as they are in one tree.

  * `Forest.after` — a forest behind a history of events
  * `Forest.Extends` — a forest that came from another one by adding nodes
  * `Forest.origin` — what a forest were if nobody had let go of a node
  * `Forest.extends_origin_after` — every history extends it
  * `Forest.compareByAncestry_after` — two nodes of one tree keep their order
-/

namespace XPathData.Forest

/-! ### Histories -/

/-- What happens to a forest: a node is added, nodes are asked for their keys, as all comparisons
    and orderings do, or the last handle on a node is let go. -/
inductive Event where
  | add (n : NodeContent)
  | ask (l : List NodeId)
  | drop (i : NodeId)

/-- The forest behind an event. -/
def record (F : Forest) : Event → Forest
  | .add n => F.add n
  | .ask l => l.foldl touch F
  | .drop i => F.drop i

/-- The forest behind a history. -/
def after (F : Forest) (history : List Event) : Forest := history.foldl record F

variable {F G H : Forest} {i j p c : NodeId} {n : NodeContent}

theorem size_add (F : Forest) (n : NodeContent) : (F.add n).nodes.size = F.nodes.size + 1 :=
  F.size_addedNodes n

theorem alive_add (F : Forest) (n : NodeContent) (i : NodeId) :
    (F.add n).alive i = (decide (i = F.nodes.size) || F.alive i) :=
  F.addedNodes_alive n i

theorem members_add_new (F : Forest) (n : NodeContent) :
    ((F.add n).node F.nodes.size).members = (F.known n).members :=
  congrArg (NodeContent.members ∘ Node.toNodeContent) (F.addedNodes_new n)

theorem members_add (hi : i ≠ F.nodes.size) :
    ((F.add n).node i).members = (F.node i).members :=
  congrArg NodeContent.members (addedNodes_toNodeContent hi)

theorem owner_add_of_some (h : F.owner i = some p) : (F.add n).owner i = some p := by
  have hi : i ≠ F.nodes.size := Nat.ne_of_lt (Nat.lt_trans (lt_owner h).1 (lt_owner h).2)
  have hkept : (nodeAt F.nodes i).parent = some p := h
  show (nodeAt (F.addedNodes n) i).parent = some p
  rw [addedNodes_old hi]
  simp [adopt, hkept]

/-- The new node adopts; between other nodes no owner changes. -/
theorem owner_add_iff (hp : p ≠ F.nodes.size) :
    (F.add n).owner c = some p ↔ F.owner c = some p := by
  constructor
  · intro h
    exact (addedNodes_parent h).resolve_left fun hnew => hp hnew.1
  · exact owner_add_of_some

theorem nodes_number (F : Forest) (i : NodeId) : (F.number i).nodes = F.nodes := by
  unfold number
  split <;> rfl

theorem nodes_touch (F : Forest) (i : NodeId) : (F.touch i).nodes = F.nodes := by
  unfold touch
  split
  · exact F.nodes_number i
  · rfl

theorem nodes_foldl_touch (F : Forest) (l : List NodeId) : (l.foldl touch F).nodes = F.nodes := by
  induction l generalizing F with
  | nil => rfl
  | cons i l ih => rw [List.foldl_cons, ih, nodes_touch]

theorem alive_of_nodes_eq (h : G.nodes = F.nodes) (i : NodeId) : G.alive i = F.alive i := by
  rw [alive, alive, h]

theorem owner_of_nodes_eq (h : G.nodes = F.nodes) (i : NodeId) : G.owner i = F.owner i := by
  rw [owner, owner, h]

theorem node_of_nodes_eq (h : G.nodes = F.nodes) (i : NodeId) : G.node i = F.node i := by
  rw [node, node, h, owner_of_nodes_eq h, funext (alive_of_nodes_eq h)]

/-! ### Letting go -/

theorem nodes_drop (F : Forest) (j : NodeId) :
    (F.drop j).nodes = if F.held j then F.nodes else F.nodesWithout j := by
  unfold drop
  split <;> rfl

theorem size_drop (F : Forest) (j : NodeId) : (F.drop j).nodes.size = F.nodes.size := by
  unfold drop
  split
  · rfl
  · exact Array.size_modify

theorem members_drop (F : Forest) (j i : NodeId) :
    ((F.drop j).node i).members = (F.node i).members := by
  unfold drop
  split
  · rfl
  · exact congrArg NodeContent.members (F.nodesWithout_toNodeContent j i)

theorem owner_drop (F : Forest) (j i : NodeId) : (F.drop j).owner i = F.owner i := by
  unfold drop
  split
  · rfl
  · exact F.nodesWithout_parent j i

theorem alive_of_alive_drop (h : (F.drop j).alive i = true) : F.alive i = true := by
  unfold drop at h
  split at h
  · exact h
  · exact ((F.nodesWithout_alive j i).1 h).2

/-- An event adds no more than one node. -/
theorem size_record (F : Forest) (e : Event) :
    F.nodes.size ≤ (F.record e).nodes.size ∧ (F.record e).nodes.size ≤ F.nodes.size + 1 := by
  cases e with
  | add n =>
    rw [record, size_add]
    omega
  | ask l =>
    rw [record, nodes_foldl_touch]
    omega
  | drop j =>
    rw [record, size_drop]
    omega

/-- A forest that came from another one by adding nodes. -/
structure Extends (F G : Forest) : Prop where
  size_le : F.nodes.size ≤ G.nodes.size
  parent : ∀ i p, (F.node i).parent = some p → (G.node i).parent = some p
  members : ∀ i < F.nodes.size, (G.node i).members = (F.node i).members

namespace Extends

theorem of_nodes_eq (h : G.nodes = F.nodes) : F.Extends G where
  size_le := Nat.le_of_eq (by rw [h])
  parent _ _ hp := by rwa [node_of_nodes_eq h]
  members i _ := by rw [node_of_nodes_eq h]

theorem refl (F : Forest) : F.Extends F := of_nodes_eq rfl

theorem trans (h : F.Extends G) (h' : G.Extends H) : F.Extends H where
  size_le := Nat.le_trans h.size_le h'.size_le
  parent i p hp := h'.parent i p (h.parent i p hp)
  members i hi := (h'.members i (Nat.lt_of_lt_of_le hi h.size_le)).trans (h.members i hi)

/-- Behind the old root the way to the top goes on. -/
theorem root_eq (h : F.Extends G) (i : NodeId) : G.root i = G.root (F.root i) := by
  induction i using F.parent_induction with
  | top i hp => rw [root_top hp]
  | below i p hp ih => rw [root_below (h.parent i p hp), root_below hp, ih]

theorem root_eq_root {a b : NodeId} (h : F.Extends G) (hroot : F.root a = F.root b) :
    G.root a = G.root b := by
  rw [h.root_eq a, h.root_eq b, hroot]

/-- A root that was not adopted is the root of the same nodes. -/
theorem root_eq_of_top (h : F.Extends G) (htop : (G.node (F.root i)).parent = none) :
    G.root i = F.root i := by
  rw [h.root_eq i, root_top htop]

theorem address_eq (h : F.Extends G) (i : NodeId) :
    G.address i = G.address (F.root i) ++ F.address i := by
  induction i using F.parent_induction with
  | top i hp => rw [root_top hp, address_top hp, List.append_nil]
  | below i p hp ih =>
    have hsame : G.position p i = F.position p i := by
      unfold position
      rw [h.members p (lt_parent_node hp).2]
    rw [address_below (h.parent i p hp), ih, root_below hp, address_below hp, hsame,
      List.append_assoc]

/-- Two nodes of one tree keep their order. -/
theorem compareByAncestry_eq {a b : NodeId} (h : F.Extends G) (hroot : F.root a = F.root b) :
    G.compareByAncestry a b = F.compareByAncestry a b := by
  rw [Forest.compareByAncestry_eq hroot, Forest.compareByAncestry_eq (h.root_eq_root hroot),
    h.address_eq a, h.address_eq b, hroot, compare_append_append]

end Extends

/-! ### If nobody had let go -/

/-- The nodes, all of which are there. -/
def allNodes (F : Forest) : Array Node := F.nodes.map fun n => { n with alive := true }

theorem allNodes_toNodeContent (F : Forest) (i : NodeId) :
    (nodeAt F.allNodes i).toNodeContent = (F.node i).toNodeContent := by
  unfold node nodeAt allNodes
  rw [Array.getElem?_map]
  cases F.nodes[i]? <;> rfl

theorem allNodes_parent (F : Forest) (i : NodeId) : (nodeAt F.allNodes i).parent = F.owner i := by
  unfold owner nodeAt allNodes
  rw [Array.getElem?_map]
  cases F.nodes[i]? <;> rfl

theorem allNodes_alive (hi : i < F.nodes.size) : (nodeAt F.allNodes i).alive = true := by
  unfold nodeAt allNodes
  rw [Array.getElem?_map, Array.getElem?_eq_getElem hi]
  rfl

theorem lt_size_of_mem_members (h : c ∈ (F.node i).members) : c < F.nodes.size := by
  refine Nat.lt_trans (members_node_lt h) (Nat.lt_of_not_le fun hi => ?_)
  rw [node_of_size_le hi] at h
  cases h

/-- The forest as it were if nobody had let go of a node. -/
def origin (F : Forest) : Forest :=
  { F with
    nodes := F.allNodes
    wellFormed := F.wellFormed.of_alive Array.size_map F.allNodes_toNodeContent F.allNodes_parent
      fun _ _ _ hc => allNodes_alive (lt_size_of_mem_members hc)
    size_places := F.size_places.trans Array.size_map.symm }

@[simp] theorem size_origin (F : Forest) : F.origin.nodes.size = F.nodes.size := Array.size_map

theorem owner_origin (F : Forest) (i : NodeId) : F.origin.owner i = F.owner i :=
  F.allNodes_parent i

theorem members_origin (F : Forest) (i : NodeId) :
    (F.origin.node i).members = (F.node i).members :=
  congrArg NodeContent.members (F.allNodes_toNodeContent i)

/-- There every node has the parent that it belongs to. -/
theorem parent_origin_iff : (F.origin.node i).parent = some p ↔ F.owner i = some p := by
  rw [parent_node_eq_some_iff, owner_origin]
  exact and_iff_left_of_imp fun h => allNodes_alive (lt_owner h).2

/-- What an event keeps: nobody comes to belong to another node, and no list changes. -/
theorem extends_origin_record (F : Forest) (e : Event) : F.origin.Extends (F.record e).origin := by
  refine ⟨?_, fun i p hp => ?_, fun i hi => ?_⟩
  · rw [size_origin, size_origin]
    exact (F.size_record e).1
  · rw [parent_origin_iff] at hp ⊢
    cases e with
    | add n => exact owner_add_of_some hp
    | ask l => rwa [record, owner_of_nodes_eq (F.nodes_foldl_touch l)]
    | drop j => rwa [record, owner_drop]
  · rw [members_origin, members_origin]
    rw [size_origin] at hi
    cases e with
    | add n => exact members_add (Nat.ne_of_lt hi)
    | ask l => rw [record, node_of_nodes_eq (F.nodes_foldl_touch l)]
    | drop j => exact F.members_drop j i

theorem listsOnce_origin (h : F.ListsOnce) : F.origin.ListsOnce := by
  intro i p hp
  rw [owner_origin] at hp
  rw [members_origin]
  exact h i p hp

theorem members_known_sublist (F : Forest) (n : NodeContent) :
    List.Sublist (F.known n).members n.members := by
  unfold known
  split
  · exact List.nil_sublist _
  · exact (List.filter_sublist.append List.filter_sublist).append List.filter_sublist

theorem nodup_members_record (h : ∀ p, (F.node p).members.Nodup) {e : Event}
    (he : ∀ n, e = .add n → n.members.Nodup) (p : NodeId) :
    ((F.record e).node p).members.Nodup := by
  cases e with
  | add n =>
    by_cases hp : p = F.nodes.size
    · subst hp
      rw [record, members_add_new]
      exact (F.members_known_sublist n).nodup (he n rfl)
    · rw [record, members_add hp]
      exact h p
  | ask l =>
    rw [record, node_of_nodes_eq (F.nodes_foldl_touch l)]
    exact h p
  | drop j =>
    rw [record, members_drop]
    exact h p

/-- Where no builder is handed a node twice, no node lists one of its own twice. -/
theorem listsOnce_after (backend : Backend) {history : List Event}
    (h : ∀ n, .add n ∈ history → n.members.Nodup) :
    ((empty backend).after history).ListsOnce := by
  -- What a node lists stays as it was given, so only the builders matter.
  have hnodup : ∀ G : Forest, (∀ p, (G.node p).members.Nodup) →
      ∀ p, ((G.after history).node p).members.Nodup := by
    induction history with
    | nil => exact fun G hG => hG
    | cons e history ih =>
      refine fun G hG => ih (fun n hn => h n (List.mem_cons_of_mem e hn)) (G.record e) ?_
      exact fun p => nodup_members_record hG (fun n hn => h n (hn ▸ List.mem_cons_self)) p
  intro i p hp
  refine List.nodup_iff_count_eq_one.1 (hnodup _ (fun p => ?_) p) i (mem_members_owner hp)
  rw [node_of_size_le (Nat.zero_le _)]
  exact List.nodup_nil

/-! ### What stays below a node -/

/-- Where lists and parents stay, for some nodes and all below them, so does what is numbered. -/
theorem preorder_eq_of_members {S : NodeId → Prop}
    (hbelow : ∀ p, S p → ∀ c ∈ (F.node p).members, S c)
    (hmembers : ∀ p, S p → (G.node p).members = (F.node p).members)
    (hparent : ∀ p, S p → ∀ c, (G.node c).parent = some p ↔ (F.node c).parent = some p)
    (hi : S i) : G.preorder i = F.preorder i := by
  induction i using Nat.strongRecOn with
  | ind i ih =>
    -- Members have smaller numbers than the node that lists them.
    have howned : G.owned i (G.node i).members = F.owned i (F.node i).members := by
      unfold owned
      rw [hmembers i hi]
      apply List.filter_congr
      intro c _
      simp only [hparent i hi c]
    rw [preorder_eq, preorder_eq, howned]
    congr 1
    apply List.flatMap_congr
    intro c hc
    have hmem : c ∈ (F.node i).members := (mem_owned.1 hc).1
    exact ih c (members_node_lt hmem) (hbelow i hi c hmem)

theorem preorder_of_nodes_eq (h : G.nodes = F.nodes) (i : NodeId) :
    G.preorder i = F.preorder i :=
  preorder_eq_of_members (S := fun _ => True) (fun _ _ _ _ => trivial)
    (fun p _ => by rw [node_of_nodes_eq h]) (fun p _ c => by rw [node_of_nodes_eq h]) trivial

/-- Below a node that is there nobody is gone. -/
theorem preorder_origin (hi : F.alive i = true) : F.origin.preorder i = F.preorder i :=
  preorder_eq_of_members (S := fun p => F.alive p = true)
    (fun _ hp _ hc => alive_of_mem_members hp hc) (fun p _ => F.members_origin p)
    (fun p hp c => by rw [parent_origin_iff, parent_node_eq_some_iff, and_iff_left hp]) hi

/-- No event changes what is below a node, as it were if nobody had let go. -/
theorem preorder_origin_record (e : Event) (hi : i < F.nodes.size) :
    (F.record e).origin.preorder i = F.origin.preorder i := by
  refine preorder_eq_of_members (S := (· < F.nodes.size))
    (fun p hp c hc => Nat.lt_trans (members_node_lt hc) hp)
    (fun p hp => (F.extends_origin_record e).members p (by rwa [size_origin]))
    (fun p hp c => ?_) hi
  rw [parent_origin_iff, parent_origin_iff]
  cases e with
  | add n => exact owner_add_iff (Nat.ne_of_lt hp)
  | ask l => rw [record, owner_of_nodes_eq (F.nodes_foldl_touch l)]
  | drop j => rw [record, owner_drop]

theorem root_of_nodes_eq (h : G.nodes = F.nodes) (i : NodeId) : G.root i = F.root i := by
  apply (Extends.of_nodes_eq h).root_eq_of_top
  rw [node_of_nodes_eq h]
  exact F.parent_root i

theorem address_of_nodes_eq (h : G.nodes = F.nodes) (i : NodeId) : G.address i = F.address i := by
  have htop : G.address (F.root i) = [] := by
    rw [← root_of_nodes_eq h]
    exact address_top (G.parent_root i)
  rw [(Extends.of_nodes_eq h).address_eq, htop, List.nil_append]

/-- The root of a node that is there is there. -/
theorem alive_root (hi : F.alive i = true) : F.alive (F.root i) = true := by
  induction i using F.parent_induction with
  | top i hp => rwa [root_top hp]
  | below i p hp ih =>
    rw [root_below hp]
    exact ih (parent_node_eq_some_iff.1 hp).2

/-- The nodes of a tree are there if its root is. -/
theorem alive_of_root (hr : F.alive (F.root i) = true) : F.alive i = true := by
  cases hp : (F.node i).parent with
  | none => rwa [root_top hp] at hr
  | some p =>
    obtain ⟨howner, hparent⟩ := parent_node_eq_some_iff.1 hp
    exact alive_of_mem_members hparent (mem_members_owner howner)

end XPathData.Forest
