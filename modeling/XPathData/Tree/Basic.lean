import XPathData.Name
import XPathData.Atomic.Value

/-! # Trees of nodes

  A forest holds nodes that are named by numbers. A node is added after the nodes
  that it lists, and belongs to the first node that lists it, so lists point to
  smaller numbers and parents have greater ones: both ways along a tree end.

  A node holds those that it lists, but not its parent. When nobody holds a node any
  more it is gone, and those that belonged to it are without a parent from then on.
-/

namespace XPathData

/-! ### Kinds -/

/-- The kinds of nodes. -/
inductive NodeKind where
  | document
  | element
  | attribute
  | text
  | comment
  | processingInstruction
  | namespace
  deriving DecidableEq, Repr

/-- Only documents and elements list other nodes. -/
def NodeKind.isLeaf : NodeKind → Bool
  | .document | .element => false
  | _ => true

/-- The name of a kind, as messages write it. -/
def NodeKind.name : NodeKind → String
  | .document => "Document"
  | .element => "Element"
  | .attribute => "Attribute"
  | .text => "Text"
  | .comment => "Comment"
  | .processingInstruction => "ProcessingInstruction"
  | .namespace => "Namespace"

/-! ### Nodes -/

/-- The number of a node in its forest. -/
abbrev NodeId := Nat

/-- What a node is made of, before it has a place in a forest. -/
structure NodeContent where
  /-- The kind. -/
  kind : NodeKind
  /-- The name; for a processing instruction its target, for a namespace its prefix. -/
  name : Option QName
  /-- The text of a node without children. -/
  value : Option String
  /-- The name of the schema type. -/
  typeName : Option ExpandedName
  /-- The namespace nodes. -/
  namespaces : List NodeId
  /-- The attribute nodes. -/
  attributes : List NodeId
  /-- The child nodes. -/
  children : List NodeId
  deriving Repr, DecidableEq

namespace NodeContent

/-- All nodes that a node lists: namespaces, then attributes, then children. -/
def members (n : NodeContent) : List NodeId := n.namespaces ++ n.attributes ++ n.children

/-- A node of a kind without anything. -/
def blank (kind : NodeKind) : NodeContent := ⟨kind, none, none, none, [], [], []⟩

end NodeContent

/-- A node of a forest. -/
structure Node extends NodeContent where
  /-- The first node that was made to list this one. -/
  parent : Option NodeId
  /-- The node is held: by a handle, or by a node that lists it. -/
  alive : Bool
  deriving Repr, DecidableEq

/-- A node without anything, which nobody holds. -/
def Node.blank : Node := { NodeContent.blank .text with parent := none, alive := false }

/-! ### Backends -/

/-- The answers that trees of different origin give in their own way. -/
structure Backend where
  /-- Nodes have keys that order them, so that no ancestors need be compared. -/
  keyed : Bool
  /-- The typed value of a node without a type, from its kind and string value. -/
  typedValue : NodeKind → String → List Atomic

namespace Backend

/-- The content of comments, processing instructions and namespaces is a string, that
    of all other nodes untyped. -/
def defaultValue (kind : NodeKind) (s : String) : List Atomic :=
  match kind with
  | .comment | .processingInstruction | .namespace => [.str s]
  | _ => [.untyped s]

/-- A word of a list: a string if it starts with an apostrophe, which is left out, and
    untyped otherwise. -/
def wordValue (word : List Char) : Atomic :=
  match word with
  | '\'' :: rest => .str (String.ofList rest)
  | _ => .untyped (String.ofList word)

/-- The words between spaces. -/
def listValue (_ : NodeKind) (s : String) : List Atomic :=
  ((Text.splitAll ' ' s.toList).filter fun w => !w.isEmpty).map wordValue

/-- Nodes with keys. -/
def simple : Backend := ⟨true, defaultValue⟩

/-- Nodes without keys. -/
def plain : Backend := ⟨false, defaultValue⟩

/-- Nodes without keys whose content is a list of words. -/
def words : Backend := ⟨false, listValue⟩

end Backend

/-! ### Forests -/

/-- The node with a number; a number without a node has one without anything. -/
def nodeAt (nodes : Array Node) (i : NodeId) : Node := nodes[i]?.getD .blank

/-- What holds of nodes that were added one after the other. -/
structure WellFormed (nodes : Array Node) : Prop where
  members_lt : ∀ i, ∀ c ∈ (nodeAt nodes i).members, c < i
  lt_parent : ∀ i p, (nodeAt nodes i).parent = some p → i < p ∧ p < nodes.size
  /-- A node is listed by its parent. -/
  listed : ∀ i p, (nodeAt nodes i).parent = some p → i ∈ (nodeAt nodes p).members
  /-- A node holds those that it lists. -/
  members_alive : ∀ i, (nodeAt nodes i).alive = true →
    ∀ c ∈ (nodeAt nodes i).members, (nodeAt nodes c).alive = true
  members_leaf : ∀ i, (nodeAt nodes i).kind.isLeaf = true → (nodeAt nodes i).members = []
  namespaces_kind : ∀ i, ∀ c ∈ (nodeAt nodes i).namespaces, (nodeAt nodes c).kind = .namespace
  attributes_kind : ∀ i, ∀ c ∈ (nodeAt nodes i).attributes, (nodeAt nodes c).kind = .attribute

theorem WellFormed.empty : WellFormed #[] := by
  constructor <;> simp [nodeAt, Node.blank, NodeContent.blank, NodeContent.members]

/-- Who is there may change, as long as nodes that are there hold those that they list. -/
theorem WellFormed.of_alive {nodes nodes' : Array Node} (h : WellFormed nodes)
    (hsize : nodes'.size = nodes.size)
    (hcontent : ∀ i, (nodeAt nodes' i).toNodeContent = (nodeAt nodes i).toNodeContent)
    (hparent : ∀ i, (nodeAt nodes' i).parent = (nodeAt nodes i).parent)
    (halive : ∀ i, (nodeAt nodes' i).alive = true →
      ∀ c ∈ (nodeAt nodes i).members, (nodeAt nodes' c).alive = true) : WellFormed nodes' where
  members_lt i c hc := h.members_lt i c (hcontent i ▸ hc)
  lt_parent i p hp := hsize ▸ h.lt_parent i p (hparent i ▸ hp)
  listed i p hp := hcontent p ▸ h.listed i p (hparent i ▸ hp)
  members_alive i hi c hc := halive i hi c (hcontent i ▸ hc)
  members_leaf i hi := by
    rw [hcontent] at hi ⊢
    exact h.members_leaf i hi
  namespaces_kind i c hc := by
    rw [hcontent] at hc ⊢
    exact h.namespaces_kind i c hc
  attributes_kind i c hc := by
    rw [hcontent] at hc ⊢
    exact h.attributes_kind i c hc

/-- Where a node was when it was numbered: its tree and its place there. -/
structure TreePlace where
  tree : Nat
  index : Nat
  deriving DecidableEq, Repr

/-- Trees over one pool of nodes. -/
structure Forest where
  /-- How the trees answer. -/
  backend : Backend
  /-- The nodes by number. -/
  nodes : Array Node
  /-- The roots whose trees were numbered, first to last. -/
  numbered : List NodeId
  /-- What was written for each node when it was numbered last. -/
  places : Array (Option TreePlace)
  wellFormed : WellFormed nodes
  size_places : places.size = nodes.size

namespace Forest

/-- The forest without nodes. -/
def empty (backend : Backend) : Forest where
  backend := backend
  nodes := #[]
  numbered := []
  places := #[]
  wellFormed := .empty
  size_places := rfl

/-- A node is there: it was added, and somebody holds it. -/
def alive (F : Forest) (i : NodeId) : Bool := (nodeAt F.nodes i).alive

/-- The node that a node belongs to, be that there or gone. -/
def owner (F : Forest) (i : NodeId) : Option NodeId := (nodeAt F.nodes i).parent

/-- The node with a number, as it shows itself: its parent is the node that it belongs to, as
    long as that is there. -/
def node (F : Forest) (i : NodeId) : Node :=
  { nodeAt F.nodes i with parent := (F.owner i).filter F.alive }

theorem nodeAt_of_size_le {nodes : Array Node} {i : NodeId} (h : nodes.size ≤ i) :
    nodeAt nodes i = .blank := by
  simp [nodeAt, Array.getElem?_eq_none h]

theorem node_of_size_le {F : Forest} {i : NodeId} (h : F.nodes.size ≤ i) : F.node i = .blank := by
  simp [node, owner, nodeAt_of_size_le h, Node.blank]

theorem lt_size_of_alive {F : Forest} {i : NodeId} (h : F.alive i = true) : i < F.nodes.size := by
  refine Nat.lt_of_not_le fun hi => ?_
  rw [alive, nodeAt_of_size_le hi] at h
  cases h

theorem parent_node_eq_some_iff {F : Forest} {i p : NodeId} :
    (F.node i).parent = some p ↔ F.owner i = some p ∧ F.alive p = true :=
  Option.filter_eq_some_iff

theorem lt_owner {F : Forest} {i p : NodeId} (h : F.owner i = some p) :
    i < p ∧ p < F.nodes.size :=
  F.wellFormed.lt_parent i p h

theorem mem_members_owner {F : Forest} {i p : NodeId} (h : F.owner i = some p) :
    i ∈ (F.node p).members :=
  F.wellFormed.listed i p h

theorem members_node_lt {F : Forest} {i c : NodeId} (h : c ∈ (F.node i).members) : c < i :=
  F.wellFormed.members_lt i c h

theorem alive_of_mem_members {F : Forest} {i c : NodeId} (hi : F.alive i = true)
    (h : c ∈ (F.node i).members) : F.alive c = true :=
  F.wellFormed.members_alive i hi c h

theorem lt_parent_node {F : Forest} {i p : NodeId} (h : (F.node i).parent = some p) :
    i < p ∧ p < F.nodes.size :=
  lt_owner (parent_node_eq_some_iff.1 h).1

theorem mem_members_parent {F : Forest} {i p : NodeId} (h : (F.node i).parent = some p) :
    i ∈ (F.node p).members :=
  mem_members_owner (parent_node_eq_some_iff.1 h).1

theorem children_node_lt {F : Forest} {i c : NodeId} (h : c ∈ (F.node i).children) : c < i :=
  members_node_lt (List.mem_append_right _ h)

/-! ### Adding nodes -/

/-- A node becomes the parent of those it lists that never had one. -/
def adopt (members : List NodeId) (parent i : NodeId) (n : Node) : Node :=
  if n.parent.isNone ∧ i ∈ members then { n with parent := some parent } else n

/-- What a node lists, without numbers that stand for no node. Namespaces and attributes are of
    their kinds, and a leaf lists nothing. -/
def known (F : Forest) (n : NodeContent) : NodeContent :=
  if n.kind.isLeaf then { n with namespaces := [], attributes := [], children := [] }
  else
    { n with
      namespaces := n.namespaces.filter fun i => F.alive i ∧ (F.node i).kind = .namespace
      attributes := n.attributes.filter fun i => F.alive i ∧ (F.node i).kind = .attribute
      children := n.children.filter F.alive }

theorem known_members_alive {F : Forest} {n : NodeContent} {c : NodeId}
    (h : c ∈ (F.known n).members) : F.alive c = true := by
  unfold known at h
  split at h
  · simp [NodeContent.members] at h
  · simp only [NodeContent.members, List.mem_append, List.mem_filter, decide_eq_true_eq] at h
    rcases h with (h | h) | h
    · exact h.2.1
    · exact h.2.1
    · exact h.2

theorem known_members_lt {F : Forest} {n : NodeContent} {c : NodeId}
    (h : c ∈ (F.known n).members) : c < F.nodes.size :=
  lt_size_of_alive (known_members_alive h)

theorem known_members_leaf {F : Forest} {n : NodeContent} (h : (F.known n).kind.isLeaf = true) :
    (F.known n).members = [] := by
  unfold known at h ⊢
  split
  · rfl
  · next hn =>
    rw [if_neg hn] at h
    exact absurd h hn

theorem known_namespaces_kind {F : Forest} {n : NodeContent} {c : NodeId}
    (h : c ∈ (F.known n).namespaces) : (F.node c).kind = .namespace := by
  unfold known at h
  split at h
  · simp at h
  · simp only [List.mem_filter, decide_eq_true_eq] at h
    exact h.2.2

theorem known_attributes_kind {F : Forest} {n : NodeContent} {c : NodeId}
    (h : c ∈ (F.known n).attributes) : (F.node c).kind = .attribute := by
  unfold known at h
  split at h
  · simp at h
  · simp only [List.mem_filter, decide_eq_true_eq] at h
    exact h.2.2

@[simp] theorem adopt_toNodeContent (members : List NodeId) (p i : NodeId) (n : Node) :
    (adopt members p i n).toNodeContent = n.toNodeContent := by
  unfold adopt; split <;> rfl

@[simp] theorem adopt_alive (members : List NodeId) (p i : NodeId) (n : Node) :
    (adopt members p i n).alive = n.alive := by
  unfold adopt; split <;> rfl

theorem adopt_parent {members : List NodeId} {p i q : NodeId} {n : Node}
    (h : (adopt members p i n).parent = some q) :
    q = p ∧ n.parent = none ∧ i ∈ members ∨ n.parent = some q := by
  unfold adopt at h
  split at h
  · next hadopted => exact .inl ⟨(Option.some.inj h).symm, by simpa using hadopted.1, hadopted.2⟩
  · exact .inr h

/-- The nodes behind the adding of one. -/
def addedNodes (F : Forest) (n : NodeContent) : Array Node :=
  (F.nodes.mapIdx (adopt (F.known n).members F.nodes.size)).push
    { F.known n with parent := none, alive := true }

theorem size_addedNodes (F : Forest) (n : NodeContent) :
    (F.addedNodes n).size = F.nodes.size + 1 := by
  rw [addedNodes, Array.size_push, Array.size_mapIdx]

theorem nodeAt_addedNodes (F : Forest) (n : NodeContent) (i : NodeId) :
    nodeAt (F.addedNodes n) i =
      if i = F.nodes.size then { F.known n with parent := none, alive := true }
      else adopt (F.known n).members F.nodes.size i (nodeAt F.nodes i) := by
  unfold nodeAt addedNodes
  rw [Array.getElem?_push, Array.size_mapIdx]
  split
  · rfl
  · rw [Array.getElem?_mapIdx]
    by_cases hi : i < F.nodes.size
    · simp [Array.getElem?_eq_getElem hi]
    · have hmem : i ∉ (F.known n).members := fun h => hi (known_members_lt h)
      rw [Array.getElem?_eq_none (Nat.le_of_not_lt hi)]
      simp [adopt, hmem]

theorem addedNodes_new (F : Forest) (n : NodeContent) :
    nodeAt (F.addedNodes n) F.nodes.size = { F.known n with parent := none, alive := true } := by
  rw [nodeAt_addedNodes, if_pos rfl]

theorem addedNodes_old {F : Forest} {n : NodeContent} {i : NodeId} (hi : i ≠ F.nodes.size) :
    nodeAt (F.addedNodes n) i = adopt (F.known n).members F.nodes.size i (nodeAt F.nodes i) := by
  rw [nodeAt_addedNodes, if_neg hi]

/-- Adoption changes no content. -/
theorem addedNodes_toNodeContent {F : Forest} {n : NodeContent} {i : NodeId}
    (hi : i ≠ F.nodes.size) :
    (nodeAt (F.addedNodes n) i).toNodeContent = (F.node i).toNodeContent := by
  rw [addedNodes_old hi, adopt_toNodeContent]
  rfl

/-- The new node is there, and of the others those that were. -/
theorem addedNodes_alive (F : Forest) (n : NodeContent) (i : NodeId) :
    (nodeAt (F.addedNodes n) i).alive = (decide (i = F.nodes.size) || F.alive i) := by
  by_cases hi : i = F.nodes.size
  · rw [hi, addedNodes_new]
    simp
  · rw [addedNodes_old hi, adopt_alive, decide_eq_false hi, Bool.false_or, alive]

theorem addedNodes_parent {F : Forest} {n : NodeContent} {i p : NodeId}
    (h : (nodeAt (F.addedNodes n) i).parent = some p) :
    p = F.nodes.size ∧ i ∈ (F.known n).members ∨ F.owner i = some p := by
  by_cases hi : i = F.nodes.size
  · subst hi
    rw [addedNodes_new] at h
    cases h
  · rw [addedNodes_old hi] at h
    rcases adopt_parent h with ⟨hp, -, hmem⟩ | hp
    · exact .inl ⟨hp, hmem⟩
    · exact .inr hp

/-- If the members in a list are of a kind, they are so behind the adding of a node. -/
theorem addedNodes_kind {F : Forest} {n : NodeContent} {kind : NodeKind}
    (list : NodeContent → List NodeId) (hblank : Node.blank.kind ≠ kind)
    (hold : ∀ i, ∀ c ∈ list (F.node i).toNodeContent, (F.node c).kind = kind)
    (hnew : ∀ c ∈ list (F.known n), (F.node c).kind = kind) (i : NodeId) :
    ∀ c ∈ list (nodeAt (F.addedNodes n) i).toNodeContent,
      (nodeAt (F.addedNodes n) c).kind = kind := by
  intro c hc
  have hkind : (F.node c).kind = kind := by
    by_cases hi : i = F.nodes.size
    · subst hi
      rw [addedNodes_new] at hc
      exact hnew c hc
    · rw [addedNodes_toNodeContent hi] at hc
      exact hold i c hc
  -- A member of that kind was there, so it is not the new node.
  have hne : c ≠ F.nodes.size := by
    rintro rfl
    rw [node_of_size_le (Nat.le_refl _)] at hkind
    exact hblank hkind
  rw [addedNodes_toNodeContent hne, hkind]

theorem wellFormed_addedNodes (F : Forest) (n : NodeContent) : WellFormed (F.addedNodes n) where
  members_lt i c hc := by
    by_cases hi : i = F.nodes.size
    · subst hi
      rw [addedNodes_new] at hc
      exact known_members_lt hc
    · rw [addedNodes_toNodeContent hi] at hc
      exact members_node_lt hc
  lt_parent i p hp := by
    rw [size_addedNodes]
    rcases addedNodes_parent hp with ⟨rfl, hmem⟩ | hp
    · exact ⟨known_members_lt hmem, Nat.lt_succ_self _⟩
    · exact ⟨(lt_owner hp).1, Nat.lt_succ_of_lt (lt_owner hp).2⟩
  listed i p hp := by
    rcases addedNodes_parent hp with ⟨rfl, hmem⟩ | hp
    · rw [addedNodes_new]
      exact hmem
    · rw [addedNodes_toNodeContent (Nat.ne_of_lt (lt_owner hp).2)]
      exact mem_members_owner hp
  members_alive i hi c hc := by
    rw [addedNodes_alive, Bool.or_eq_true] at hi ⊢
    right
    by_cases hnew : i = F.nodes.size
    · subst hnew
      rw [addedNodes_new] at hc
      exact known_members_alive hc
    · rw [addedNodes_toNodeContent hnew] at hc
      exact alive_of_mem_members (hi.resolve_left (by simpa using hnew)) hc
  members_leaf i hleaf := by
    by_cases hi : i = F.nodes.size
    · subst hi
      rw [addedNodes_new] at hleaf ⊢
      exact known_members_leaf hleaf
    · rw [addedNodes_toNodeContent hi] at hleaf ⊢
      exact F.wellFormed.members_leaf i hleaf
  namespaces_kind :=
    addedNodes_kind NodeContent.namespaces (by decide) F.wellFormed.namespaces_kind
      fun _ hc => known_namespaces_kind hc
  attributes_kind :=
    addedNodes_kind NodeContent.attributes (by decide) F.wellFormed.attributes_kind
      fun _ hc => known_attributes_kind hc

/-- Adds a node; its number is the size of the forest before. -/
def add (F : Forest) (n : NodeContent) : Forest where
  backend := F.backend
  nodes := F.addedNodes n
  numbered := F.numbered
  places := F.places.push none
  wellFormed := F.wellFormed_addedNodes n
  size_places := by rw [Array.size_push, F.size_places, F.size_addedNodes]

/-! ### Letting go of nodes -/

/-- A node that is there lists this one, and so holds it. -/
def held (F : Forest) (i : NodeId) : Bool :=
  F.nodes.any fun n => n.alive && n.members.contains i

/-- The nodes without one that is gone. -/
def nodesWithout (F : Forest) (i : NodeId) : Array Node :=
  F.nodes.modify i fun n => { n with alive := false }

theorem nodeAt_nodesWithout (F : Forest) (i j : NodeId) :
    nodeAt (F.nodesWithout i) j =
      if j = i then { nodeAt F.nodes j with alive := false } else nodeAt F.nodes j := by
  unfold nodeAt nodesWithout
  rw [Array.getElem?_modify]
  by_cases hj : j = i
  · subst hj
    rw [if_pos rfl, if_pos rfl]
    cases F.nodes[j]? <;> rfl
  · rw [if_neg (Ne.symm hj), if_neg hj]

theorem nodesWithout_toNodeContent (F : Forest) (i j : NodeId) :
    (nodeAt (F.nodesWithout i) j).toNodeContent = (F.node j).toNodeContent := by
  rw [nodeAt_nodesWithout]
  split <;> rfl

theorem nodesWithout_parent (F : Forest) (i j : NodeId) :
    (nodeAt (F.nodesWithout i) j).parent = F.owner j := by
  rw [nodeAt_nodesWithout]
  split <;> rfl

theorem nodesWithout_alive (F : Forest) (i j : NodeId) :
    (nodeAt (F.nodesWithout i) j).alive = true ↔ j ≠ i ∧ F.alive j = true := by
  rw [nodeAt_nodesWithout]
  split
  · next hj => simp [hj]
  · next hj => simp [hj, alive]

theorem held_of_mem {F : Forest} {i p : NodeId} (hp : F.alive p = true)
    (h : i ∈ (F.node p).members) : F.held i = true := by
  have hlt := lt_size_of_alive hp
  refine Array.any_eq_true.2 ⟨p, hlt, ?_⟩
  have hnode : nodeAt F.nodes p = F.nodes[p] := by simp [nodeAt, Array.getElem?_eq_getElem hlt]
  rw [← hnode, Bool.and_eq_true, List.contains_iff_mem]
  exact ⟨hp, h⟩

theorem wellFormed_nodesWithout {F : Forest} {i : NodeId} (h : ¬F.held i = true) :
    WellFormed (F.nodesWithout i) := by
  refine F.wellFormed.of_alive Array.size_modify (F.nodesWithout_toNodeContent i)
    (F.nodesWithout_parent i) fun j hj c hc => ?_
  rw [nodesWithout_alive] at hj ⊢
  refine ⟨?_, alive_of_mem_members hj.2 hc⟩
  rintro rfl
  exact h (held_of_mem hj.2 hc)

/-- The last handle on a node is let go. The node is gone then, unless another one holds it. What
    was written for the nodes below it stays. -/
def drop (F : Forest) (i : NodeId) : Forest :=
  if h : F.held i = true then F
  else
    { F with
      nodes := F.nodesWithout i
      wellFormed := wellFormed_nodesWithout h
      size_places := by rw [nodesWithout, Array.size_modify, F.size_places] }

/-! ### Content -/

/-- The text below a node, in the order of its children. -/
def textBelow (F : Forest) (i : NodeId) : String :=
  let own := if (F.node i).kind = .text then (F.node i).value.getD "" else ""
  (F.node i).children.attach.foldl (fun s ⟨c, _⟩ => s ++ F.textBelow c) own
termination_by i
decreasing_by exact children_node_lt (by assumption)

/-- The text of a document or an element is that of the text nodes below it; other
    nodes hold their text themselves. -/
def stringValue (F : Forest) (i : NodeId) : String :=
  match (F.node i).kind with
  | .document | .element => F.textBelow i
  | _ => (F.node i).value.getD ""

/-- The typed value that the backend gives a node. -/
def typedValue (F : Forest) (i : NodeId) : List Atomic :=
  F.backend.typedValue (F.node i).kind (F.stringValue i)

/-! ### Ancestors -/

/-- A node and the nodes above it, in ascending order. -/
def ancestors (F : Forest) (i : NodeId) : List NodeId :=
  match h : (F.node i).parent with
  | none => [i]
  | some p =>
    have : F.nodes.size - p < F.nodes.size - i :=
      Nat.sub_lt_sub_left (Nat.lt_trans (lt_parent_node h).1 (lt_parent_node h).2)
        (lt_parent_node h).1
    i :: F.ancestors p
termination_by F.nodes.size - i

theorem ancestors_ne_nil (F : Forest) (i : NodeId) : F.ancestors i ≠ [] := by
  rw [ancestors]; split <;> simp

/-- The node at the top of the tree of a node. -/
def root (F : Forest) (i : NodeId) : NodeId := (F.ancestors i).getLast (F.ancestors_ne_nil i)

end Forest

end XPathData
