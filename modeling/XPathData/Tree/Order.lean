import XPathData.Error
import XPathData.Tree.Basic

/-! # Document order

  In a tree a node comes before its namespaces, these before its attributes, and
  these before its children with all that is below them. Trees are ordered by the
  moment when one of their nodes was first asked for its place. Where nodes have
  no keys, the order within a tree is read off the paths from the root, and trees
  come in the order in which an operation meets them.
-/

namespace XPathData

/-- A place as one key of 64 bits, of which the tree and the place in it take one half each. What
    is beyond a half is lost. -/
def TreePlace.key (p : TreePlace) : UInt64 :=
  (UInt64.ofNat p.tree <<< 32) ||| (UInt64.ofNat p.index &&& 0xFFFFFFFF)

namespace Forest

/-! ### Comparison by ancestry -/

/-- The nodes from the root down to a node. -/
def path (F : Forest) (i : NodeId) : List NodeId := (F.ancestors i).reverse

/-- Nodes of two trees have no order. -/
def noCommonRoot : Error :=
  .ofCode .unidentified "document order undefined: nodes from different roots"

/-- The order in which a node lists two others. -/
def compareListed (F : Forest) (parent a b : NodeId) : Ordering :=
  match (F.node parent).members.idxOf? a, (F.node parent).members.idxOf? b with
  | some x, some y => compare x y
  -- Both nodes stand on paths through the parent, so this case is not met.
  | _, _ => .eq

/-- The order of two paths that both go on below `parent`, or start if there is none. -/
def comparePaths (F : Forest) (parent : Option NodeId) :
    List NodeId → List NodeId → Except Error Ordering
  | [], [] => .ok .eq
  | [], _ :: _ => .ok .lt
  | _ :: _, [] => .ok .gt
  | a :: as, b :: bs =>
    if a = b then F.comparePaths (some a) as bs
    else match parent with
      | some p => .ok (F.compareListed p a b)
      | none => .error noCommonRoot

/-- The order of two nodes of one tree by the paths that lead to them. -/
def compareByAncestry (F : Forest) (a b : NodeId) : Except Error Ordering :=
  F.comparePaths none (F.path a) (F.path b)

/-! ### Order keys -/

/-- The members of a list that belong to the node that lists them, which is there. -/
def owned (F : Forest) (parent : NodeId) (l : List NodeId) : List NodeId :=
  l.filter fun c => (F.node c).parent = some parent

theorem owned_children_lt {F : Forest} {i c : NodeId}
    (h : c ∈ F.owned i (F.node i).children) : c < i :=
  children_node_lt (List.mem_filter.1 h).1

/-- The nodes of a tree from a node downward, each before what is below it. -/
def preorder (F : Forest) (i : NodeId) : List NodeId :=
  i :: (F.owned i (F.node i).namespaces ++ F.owned i (F.node i).attributes ++
    (F.owned i (F.node i).children).attach.flatMap fun ⟨c, _⟩ => F.preorder c)
termination_by i
decreasing_by exact owned_children_lt (by assumption)

/-- Writes the places of nodes of a tree in their order, over what was written before. -/
def writePlaces (tree : Nat) (l : List NodeId) (places : Array (Option TreePlace)) :
    Array (Option TreePlace) :=
  l.zipIdx.foldl (fun places p => places.setIfInBounds p.1 (some ⟨tree, p.2⟩)) places

theorem size_writePlaces (tree : Nat) (l : List NodeId) (places : Array (Option TreePlace)) :
    (writePlaces tree l places).size = places.size := by
  unfold writePlaces
  induction l.zipIdx generalizing places with
  | nil => rfl
  | cons p l ih => rw [List.foldl_cons, ih, Array.size_setIfInBounds]

/-- Numbers the tree of a node behind those that were numbered, once for each root. Only nodes that
    are there can be asked. -/
def number (F : Forest) (i : NodeId) : Forest :=
  if F.alive i ∧ F.root i ∉ F.numbered then
    { F with
      numbered := F.numbered ++ [F.root i]
      places := writePlaces (F.numbered.length + 1) (F.preorder (F.root i)) F.places
      size_places := (size_writePlaces _ _ _).trans F.size_places }
  else F

/-- Numbers the tree of a node where nodes have keys. -/
def touch (F : Forest) (i : NodeId) : Forest := if F.backend.keyed then F.number i else F

/-- The place of a node, where nodes have keys and its tree was numbered. -/
def place? (F : Forest) (i : NodeId) : Option TreePlace :=
  if F.backend.keyed then F.places[i]?.join else none

/-- The key that orders a node among all nodes. -/
def orderKey? (F : Forest) (i : NodeId) : Option UInt64 := (F.place? i).map (·.key)

/-- The key of the tree of a node. -/
def treeKey? (F : Forest) (i : NodeId) : Option Nat := (F.place? i).map (·.tree)

/-- The order of two nodes as the backend tells it, their trees being numbered. -/
def compareNumbered (F : Forest) (a b : NodeId) : Except Error Ordering :=
  match F.orderKey? a, F.orderKey? b with
  | some x, some y => .ok (compare x y)
  | _, _ => F.compareByAncestry a b

/-- The order of two nodes as the backend tells it. -/
def compareOrder (F : Forest) (a b : NodeId) : Forest × Except Error Ordering :=
  let G := (F.touch a).touch b
  (G, G.compareNumbered a b)

/-- Two nodes have the same tree key, or have none. -/
def sameTree (F : Forest) (a b : NodeId) : Forest × Bool :=
  let G := (F.touch a).touch b
  (G, G.treeKey? a == G.treeKey? b)

/-! ### Sorting -/

/-- The place of the tree of a node: by its key, or else behind all keys by when its root was
    met. -/
def treeRank (F : Forest) (met : List NodeId) (i : NodeId) : Nat × Nat :=
  match F.treeKey? i with
  | some tree => (0, tree)
  | none => (1, met.idxOf (F.root i))

/-- The order of two nodes among several trees. -/
def compareRanked (F : Forest) (met : List NodeId) (a b : NodeId) : Ordering :=
  ((compare (F.treeRank met a).1 (F.treeRank met b).1).then
    (compare (F.treeRank met a).2 (F.treeRank met b).2)).then
    (match F.compareNumbered a b with
     | .ok o => o
     -- Nodes of one rank lie in one tree, so this case is not met.
     | .error _ => .eq)

/-- The roots of nodes, in the order in which they are met. -/
def rootsMet (F : Forest) (l : List NodeId) : List NodeId := (l.map F.root).eraseDups

/-- The different nodes of a list in document order. -/
def inDocumentOrder (F : Forest) (l : List NodeId) : Forest × List NodeId :=
  let distinct := l.eraseDups
  let G := distinct.foldl touch F
  (G, distinct.mergeSort fun a b => G.compareRanked (G.rootsMet distinct) a b != .gt)

end Forest

/-! ### Comparing two nodes -/

/-- Which keys nodes show, tree by tree: an adapter may hide keys that its backend has. Trees
    are named by their roots. -/
structure Keys where
  /-- The key of the tree is shown. -/
  tree : NodeId → Bool
  /-- The keys that order the nodes of the tree are shown. -/
  node : NodeId → Bool

/-- Nothing is hidden. -/
def Keys.all : Keys := ⟨fun _ => true, fun _ => true⟩

namespace Forest

/-- Asks for the key of the tree of a node, if it is shown. -/
def askTree (F : Forest) (keys : Keys) (i : NodeId) : Forest :=
  if keys.tree (F.root i) then F.touch i else F

/-- Asks for what two nodes are compared by: the keys of their trees and, in one tree, those of
    the nodes. -/
def askPair (F : Forest) (keys : Keys) (a b : NodeId) : Forest :=
  let G := (F.askTree keys a).askTree keys b
  if F.root a = F.root b ∧ keys.node (F.root a) = true then (G.touch a).touch b else G

/-- The place of the tree of a node, as far as keys are shown. -/
def rankShown (F : Forest) (keys : Keys) (met : List NodeId) (i : NodeId) : Nat × Nat :=
  if keys.tree (F.root i) then F.treeRank met i else (1, met.idxOf (F.root i))

/-- The order of two nodes as the backend tells it, as far as keys are shown. -/
def compareShown (F : Forest) (keys : Keys) (a b : NodeId) : Except Error Ordering :=
  if keys.node (F.root a) ∧ keys.node (F.root b) then F.compareNumbered a b
  else F.compareByAncestry a b

/-- The order of two nodes, the tree of the first one being met first. -/
def comparePair (F : Forest) (keys : Keys) (a b : NodeId) : Forest × Ordering :=
  let G := F.askPair keys a b
  let r := G.rankShown keys (G.rootsMet [a, b]) a
  let s := G.rankShown keys (G.rootsMet [a, b]) b
  (G, ((compare r.1 s.1).then (compare r.2 s.2)).then
    (match G.compareShown keys a b with
     | .ok o => o
     -- Nodes of one rank lie in one tree, so this case is not met.
     | .error _ => .eq))

/-- Two nodes are different and have the given order, as far as keys are shown. -/
def ordersAs (F : Forest) (keys : Keys) (o : Ordering) (a b : NodeId) : Forest × Bool :=
  if a = b then (F, false)
  else ((F.comparePair keys a b).1, (F.comparePair keys a b).2 == o)

/-- A node comes before another one. -/
def precedes (F : Forest) (a b : NodeId) : Forest × Bool := F.ordersAs .all .lt a b

/-- A node comes after another one. -/
def follows (F : Forest) (a b : NodeId) : Forest × Bool := F.ordersAs .all .gt a b

end Forest

end XPathData
