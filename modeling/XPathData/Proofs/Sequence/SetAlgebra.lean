import XPathData.Proofs.Sequence.Reading
import XPathData.Proofs.Tree.Sorting

/-! # Set operations in document order

  Ordered union, intersection and difference, and the ordering of one sequence. On every forest
  that building, asking and letting go lead to, whatever its backend, the result has the nodes
  that it should have, each once, tree by tree and in the order that the backend tells. The order
  is strict as long as keys have the bits for the indices of the nodes.

  * `SetOp.Selects` — the nodes that an operation selects
  * `Forest.OrderedAs` — a result in document order
  * `Stream.ordered_algebra` — all operations give such results
-/

namespace XPathData

/-! ### Selections -/

/-- An operation selects a node from two lists. -/
def SetOp.Selects (op : SetOp) (a b : List NodeId) (n : NodeId) : Prop :=
  match op with
  | union => n ∈ a ∨ n ∈ b
  | intersect => n ∈ a ∧ n ∈ b
  | except => n ∈ a ∧ n ∉ b

/-- The nodes that an operation brings in order. -/
def SetOp.sorted (op : SetOp) (a b : List NodeId) : List NodeId :=
  match op with
  | union => a ++ b
  | intersect | except => a

/-- The nodes that are wanted from a list, in document order. -/
structure Forest.OrderedAs (F : Forest) (l : List NodeId) (wanted : NodeId → Prop)
    (out : List NodeId) : Prop where
  mem_iff : ∀ n, n ∈ out ↔ wanted n
  nodup : out.Nodup
  /-- Nothing in front of what is smaller. -/
  sorted : out.Pairwise fun a b => F.compareRanked (F.rootsMet l.eraseDups) a b ≠ .gt
  /-- Strictly ascending, the nodes of each tree side by side, if the indices take 32 bits. -/
  inOrder : (∀ n ∈ l, F.IndexFits n) → F.InOrder (F.rootsMet l.eraseDups) out
  /-- The rank of a tree is its key. -/
  rank_keyed : F.backend.keyed = true → ∀ a ∈ l, ∃ k, F.treeKey? a = some k ∧
    F.treeRank (F.rootsMet l.eraseDups) a = (0, k)
  /-- The rank of a tree without a key is its place among the trees that are met. -/
  rank_met : F.backend.keyed = false → ∀ a ∈ l,
    F.treeRank (F.rootsMet l.eraseDups) a = (1, (F.rootsMet l.eraseDups).idxOf (F.root a))
  rank_eq : ∀ a ∈ l, ∀ b ∈ l, F.root a = F.root b →
    F.treeRank (F.rootsMet l.eraseDups) a = F.treeRank (F.rootsMet l.eraseDups) b
  /-- Two trees of one rank both hung below nodes that are gone. -/
  root_eq : ∀ a ∈ l, ∀ b ∈ l,
    F.treeRank (F.rootsMet l.eraseDups) a = F.treeRank (F.rootsMet l.eraseDups) b →
      F.root a = F.root b ∨ F.backend.keyed = true ∧ F.Orphan (F.root a) ∧ F.Orphan (F.root b)
  /-- The comparison of two nodes of one rank does not fail. -/
  compares : ∀ a ∈ l, ∀ b ∈ l,
    F.treeRank (F.rootsMet l.eraseDups) a = F.treeRank (F.rootsMet l.eraseDups) b →
      ∃ o, F.compareNumbered a b = .ok o

namespace Forest

variable {F : Forest} {l : List NodeId}

/-- The nodes of a sorted list that pass a test. -/
theorem Numbered.orderedAs_filter (h : F.Numbered) (halive : ∀ n ∈ l, F.alive n = true)
    (q : NodeId → Bool) (wanted : NodeId → Prop)
    (hwanted : ∀ n, wanted n ↔ n ∈ l ∧ q n = true) :
    (F.inDocumentOrder l).1.OrderedAs l wanted ((F.inDocumentOrder l).2.filter q) := by
  have hasked := h.asked_eraseDups halive
  have hmem {n : NodeId} (hn : n ∈ l) : n ∈ l.eraseDups := List.mem_eraseDups.2 hn
  refine ⟨fun n => ?_, (F.nodup_inDocumentOrder l).filter q,
    (h.inDocumentOrder_sorted halive).filter q,
    fun hfits => (h.inDocumentOrder_inOrder halive hfits).filter q, fun hkeyed a ha => ?_,
    fun hkeyed a _ => ?_, fun a ha b hb => ?_, fun a ha b hb => ?_, fun a ha b hb => ?_⟩
  · rw [List.mem_filter, mem_inDocumentOrder, hwanted]
  · obtain ⟨t, ht⟩ := hasked.exists_placedAt hkeyed (hmem ha)
    exact ⟨t.tree, congrArg (Option.map TreePlace.tree) ht.place, treeRank_of_place ht.place⟩
  · exact treeRank_of_none (place?_eq_none (by rw [hkeyed]; exact Bool.false_ne_true) a)
  · exact hasked.rank_eq_of_root (hmem ha) (hmem hb)
  · exact hasked.root_eq_or_orphan (hmem ha) (hmem hb)
  · exact hasked.compareNumbered_ok (hmem ha) (hmem hb)

theorem Numbered.orderedAs (h : F.Numbered) (halive : ∀ n ∈ l, F.alive n = true) :
    (F.inDocumentOrder l).1.OrderedAs l (· ∈ l) (F.inDocumentOrder l).2 := by
  have hall := h.orderedAs_filter halive (fun _ => true) (· ∈ l) fun n => by simp
  rwa [List.filter_true] at hall

end Forest

/-! ### Operations -/

namespace Stream

variable {F : Forest} {a b : List NodeId}

theorem combine_orderedAs (op : SetOp) (h : F.Numbered)
    (halive : ∀ n ∈ a ++ b, F.alive n = true) :
    (combine op F a b).1 = (F.inDocumentOrder (op.sorted a b)).1 ∧
      (combine op F a b).1.OrderedAs (op.sorted a b) (op.Selects a b) (combine op F a b).2 := by
  have halivea : ∀ n ∈ a, F.alive n = true := fun n hn => halive n (List.mem_append_left b hn)
  cases op with
  | union =>
    refine ⟨rfl, ?_⟩
    have hall := h.orderedAs halive
    simp only [List.mem_append] at hall
    exact hall
  | intersect =>
    refine ⟨rfl, h.orderedAs_filter halivea _ _ fun n => ?_⟩
    simp [SetOp.Selects, SetOp.wants]
  | except =>
    refine ⟨rfl, h.orderedAs_filter halivea _ _ fun n => ?_⟩
    simp [SetOp.Selects, SetOp.wants]

/-- Ordered set operations, and the ordering of one sequence, on every forest that building, asking
    and letting go lead to. What is asked on the way numbers trees, and no node gets another index
    than it has or would have got. -/
theorem ordered_algebra (backend : Backend) (history : List Forest.Event) :
    let F := (Forest.empty backend).after history
    (∀ (op : SetOp) (t u : Stream) (a b : List NodeId) (s s' s'' : Store),
      t.nodes op.symbol s = (.ok a, s') → u.nodes op.symbol s' = (.ok b, s'') →
      (∀ n ∈ a ++ b, F.alive n = true) →
      ∃ G out, ordered op F t u s = (.ok (G, ofNodes out), s'') ∧ G.nodes = F.nodes ∧
        (∀ n ∈ a ++ b, G.index? n = F.index? n) ∧
        G.OrderedAs (op.sorted a b) (op.Selects a b) out) ∧
    (∀ (t : Stream) (a : List NodeId) (s s' : Store),
      t.nodes "document ordering" s = (.ok a, s') → (∀ n ∈ a, F.alive n = true) →
      ∃ G out, documentOrder F t s = (.ok (G, ofNodes out), s') ∧ G.nodes = F.nodes ∧
        (∀ n ∈ a, G.index? n = F.index? n) ∧ G.OrderedAs a (· ∈ a) out) := by
  intro F
  have h : F.Numbered := Forest.numbered_after_empty backend history
  refine ⟨fun op t u a b s s' s'' ht hu halive => ?_, fun t a s s' ht halive => ?_⟩
  · obtain ⟨hG, hordered⟩ := combine_orderedAs op h halive
    have hkeeps : F.Keeps (combine op F a b).1 := hG ▸ Forest.Keeps.inDocumentOrder F _
    exact ⟨_, _, (Fetch.bind_ok ht).trans (Fetch.bind_ok hu), hkeeps.nodes,
      fun n hn => hkeeps.index?_eq (halive n hn), hordered⟩
  · have hkeeps := Forest.Keeps.inDocumentOrder F a
    exact ⟨_, _, Fetch.bind_ok ht, hkeeps.nodes, fun n hn => hkeeps.index?_eq (halive n hn),
      h.orderedAs halive⟩

/-- Nodes of two trees without keys, in any order and repeated. -/
theorem ordered_algebra_plain_union :
    ∃ G out, ordered .union
        ((Forest.empty .plain).after [.add (.textOf "a"),
          .add ((NodeContent.elementNamed "e").withMembers [] [] [0]), .add (.commentOf "c")])
        (ofNodes [2, 0, 2]) (ofNodes [1, 0]) .empty = (.ok (G, ofNodes out), .empty) ∧
      G.nodes.size = 3 ∧
      G.OrderedAs [2, 0, 2, 1, 0] (SetOp.union.Selects [2, 0, 2] [1, 0]) out := by
  obtain ⟨G, out, hordered, hnodes, -, hout⟩ :=
    (ordered_algebra .plain [.add (.textOf "a"),
      .add ((NodeContent.elementNamed "e").withMembers [] [] [0]), .add (.commentOf "c")]).1
      .union (ofNodes [2, 0, 2]) (ofNodes [1, 0]) [2, 0, 2] [1, 0] .empty .empty .empty rfl rfl
      (by decide)
  exact ⟨G, out, hordered, by rw [hnodes]; rfl, hout⟩

end Stream

end XPathData
