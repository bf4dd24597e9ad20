import XPathData.Proofs.Tree.Ancestry
import XPathData.Tree.Build
import XPathData.Tree.NodeTest

/-! # Name tests and the namespaces in scope

  Namespaces in XML give the name of a node its namespace: the prefix is looked up in the elements
  upward from the node, and the nearest declaration decides. Only elements take the default
  namespace, and an empty declaration takes it away again. A name test follows this, except at
  three kinds of nodes: where the empty text is stored as a namespace, at an element under an empty
  default declaration, and at a name without prefix that belongs to neither an element nor an
  attribute, which is given the default namespace as elements are.

  * `Forest.Binds` — the declarations that are in scope
  * `Forest.NamespaceOf` — the namespace of a name
  * `Forest.Misreads` — the names that get another namespace
  * `Forest.name_tests_in_scope` — what a name test asks of a node
-/

namespace XPathData.Forest

variable {F : Forest} {i j : NodeId} {p u v : String} {q : QName} {ns : Option String}

/-! ### Declarations in scope -/

/-- A namespace node is for a prefix; one without a prefix is for the empty one. -/
def IsFor (F : Forest) (d : NodeId) (p : String) : Prop :=
  ∃ q, (F.node d).name = some q ∧ q.nsPrefix.getD "" = p

/-- An element declares a prefix. If several of its namespace nodes are for it, the first one
    counts. -/
def Declares (F : Forest) (i : NodeId) (p u : String) : Prop :=
  (F.node i).kind = .element ∧ ∃ before d after, (F.node i).namespaces = before ++ d :: after ∧
    (∀ b ∈ before, ¬ F.IsFor b p) ∧ F.IsFor d p ∧ F.stringValue d = u

/-- The nearest element upward that declares the prefix binds it. -/
inductive Binds (F : Forest) (p : String) : NodeId → String → Prop
  | own {i : NodeId} {u : String} : F.Declares i p u → Binds F p i u
  | inherited {i j : NodeId} {u : String} : (∀ v, ¬ F.Declares i p v) →
      (F.node i).parent = some j → Binds F p j u → Binds F p i u

/-- What the declarations at one node say of a prefix. -/
def declaredAt? (F : Forest) (p : String) (i : NodeId) : Option String :=
  if (F.node i).kind = .element then F.declared? p (F.node i).namespaces else none

theorem declared?_eq_some_iff {l : List NodeId} : F.declared? p l = some u ↔
    ∃ before d after, l = before ++ d :: after ∧ (∀ b ∈ before, ¬ F.IsFor b p) ∧ F.IsFor d p ∧
      F.stringValue d = u := by
  have hfor (d : NodeId) : (F.node d).name.any (fun q => q.nsPrefix.getD "" = p) = true ↔
      F.IsFor d p := by
    simp [IsFor, Option.any_eq_true]
  unfold declared?
  rw [Option.map_eq_some_iff]
  constructor
  · rintro ⟨d, hd, hu⟩
    obtain ⟨hfound, before, after, rfl, hbefore⟩ := List.find?_eq_some_iff_append.1 hd
    refine ⟨before, d, after, rfl, fun b hb => ?_, (hfor d).1 hfound, hu⟩
    rw [← hfor]
    simpa using hbefore b hb
  · rintro ⟨before, d, after, rfl, hbefore, hd, hu⟩
    refine ⟨d, List.find?_eq_some_iff_append.2 ⟨(hfor d).2 hd, before, after, rfl, ?_⟩, hu⟩
    intro b hb
    have hother := hbefore b hb
    rw [← hfor] at hother
    simpa using hother

theorem declaredAt?_eq_some_iff : F.declaredAt? p i = some u ↔ F.Declares i p u := by
  unfold declaredAt? Declares
  split
  · next h => rw [declared?_eq_some_iff, and_iff_right h]
  · next h => simp [h]

theorem declaredAt?_eq_none_iff : F.declaredAt? p i = none ↔ ∀ u, ¬ F.Declares i p u := by
  simp [Option.eq_none_iff_forall_ne_some, declaredAt?_eq_some_iff]

/-- The first declaration upward is the one that binds the prefix. -/
theorem findSome?_declaredAt?_eq_some_iff :
    (F.ancestors i).findSome? (F.declaredAt? p) = some u ↔ F.Binds p i u := by
  -- From the node upward: its own declaration counts, or else what its parent binds.
  induction i using F.parent_induction with
  | top i htop =>
    rw [ancestors_top htop, List.findSome?_singleton, declaredAt?_eq_some_iff]
    constructor
    · exact .own
    · rintro (h | ⟨-, hparent, -⟩)
      · exact h
      · rw [htop] at hparent
        cases hparent
  | below i j hj ih =>
    rw [ancestors_below hj, List.findSome?_cons]
    cases hown : F.declaredAt? p i with
    | some v =>
      have hv := declaredAt?_eq_some_iff.1 hown
      constructor
      · intro h
        cases h
        exact .own hv
      · rintro (h | ⟨hnone, -, -⟩)
        · exact hown.symm.trans (declaredAt?_eq_some_iff.2 h)
        · exact absurd hv (hnone v)
    | none =>
      have hnone := declaredAt?_eq_none_iff.1 hown
      dsimp only
      rw [ih]
      constructor
      · exact .inherited hnone hj
      · rintro (h | ⟨-, hparent, h⟩)
        · exact absurd h (hnone u)
        · rw [hj] at hparent
          cases hparent
          exact h

theorem prefixNamespace?_eq (hp : p ≠ "xml") (i : NodeId) :
    F.prefixNamespace? i p = (F.ancestors i).findSome? (F.declaredAt? p) :=
  if_neg hp

/-- Looking a prefix up finds what binds it. -/
theorem prefixNamespace?_eq_some_iff (hp : p ≠ "xml") :
    F.prefixNamespace? i p = some u ↔ F.Binds p i u := by
  rw [prefixNamespace?_eq hp, findSome?_declaredAt?_eq_some_iff]

theorem prefixNamespace?_eq_none_iff (hp : p ≠ "xml") :
    F.prefixNamespace? i p = none ↔ ∀ u, ¬ F.Binds p i u := by
  simp [Option.eq_none_iff_forall_ne_some, prefixNamespace?_eq_some_iff hp]

/-! ### The namespace of a name -/

/-- The namespace that XML gives the name `q` of a node. A namespace that is stored and not empty
    counts; else the prefix is looked up, and an element without prefix takes the default namespace
    unless it is declared as empty. -/
def NamespaceOf (F : Forest) (i : NodeId) (q : QName) (ns : Option String) : Prop :=
  if q.uri.getD "" ≠ "" then ns = q.uri
  else match q.nsPrefix with
    | some p =>
      if p = "xml" then ns = some Namespace.xml else ∀ u, ns = some u ↔ F.Binds p i u
    | none =>
      if (F.node i).kind = .element then ∀ u, ns = some u ↔ F.Binds "" i u ∧ u ≠ "" else ns = none

/-- The names that get another namespace. -/
inductive Misreads (F : Forest) (i : NodeId) (q : QName) : String → Prop
  /-- The empty text is stored and stays. -/
  | emptyStored : q.uri = some "" → ¬ F.NamespaceOf i q (some "") → Misreads F i q ""
  /-- An empty default declaration gives the empty text, not none. -/
  | emptyDefault : q.uri = none → q.nsPrefix = none → (F.node i).kind = .element →
      F.Binds "" i "" → Misreads F i q ""
  /-- The default namespace is given to what is neither an element nor an attribute. -/
  | strayDefault {u : String} : q.uri = none → q.nsPrefix = none → (F.node i).kind ≠ .element →
      (F.node i).kind ≠ .attribute → F.Binds "" i u → Misreads F i q u

section Names

variable (huri : q.uri.getD "" = "")

include huri

theorem namespaceOf_xml (hq : q.nsPrefix = some "xml") :
    F.NamespaceOf i q ns ↔ ns = some Namespace.xml := by
  simp [NamespaceOf, huri, hq]

theorem namespaceOf_prefixed (hq : q.nsPrefix = some p) (hp : p ≠ "xml") :
    F.NamespaceOf i q ns ↔ ∀ u, ns = some u ↔ F.Binds p i u := by
  simp [NamespaceOf, huri, hq, hp]

theorem namespaceOf_element (hq : q.nsPrefix = none) (hkind : (F.node i).kind = .element) :
    F.NamespaceOf i q ns ↔ ∀ u, ns = some u ↔ F.Binds "" i u ∧ u ≠ "" := by
  simp [NamespaceOf, huri, hq, hkind]

theorem namespaceOf_other (hq : q.nsPrefix = none) (hkind : (F.node i).kind ≠ .element) :
    F.NamespaceOf i q ns ↔ ns = none := by
  simp [NamespaceOf, huri, hq, hkind]

end Names

theorem namespaceOf_stored (huri : q.uri.getD "" ≠ "") : F.NamespaceOf i q ns ↔ ns = q.uri := by
  simp [NamespaceOf, huri]

/-! ### What a test reads -/

/-- A name gets the namespace that is stored, or that of its prefix. -/
theorem effectiveNamespace?_eq (hname : (F.node i).name = some q) : F.effectiveNamespace? i =
    match q.uri, q.nsPrefix with
    | some u, _ => some u
    | none, some p => F.prefixNamespace? i p
    | none, none => if (F.node i).kind = .attribute then none else F.prefixNamespace? i "" := by
  rewrite [effectiveNamespace?, hname]
  rfl

/-- A name that is misread gets the other namespace. -/
theorem Misreads.effectiveNamespace?_eq (hname : (F.node i).name = some q)
    (h : F.Misreads i q u) : F.effectiveNamespace? i = some u := by
  rw [Forest.effectiveNamespace?_eq hname]
  cases h with
  | emptyStored huri _ => rw [huri]
  | emptyDefault huri hq hkind hbound =>
    rw [huri, hq, hkind]
    exact (prefixNamespace?_eq_some_iff (by decide)).2 hbound
  | strayDefault huri hq _ hkind hbound =>
    rw [huri, hq]
    dsimp only
    rw [if_neg hkind]
    exact (prefixNamespace?_eq_some_iff (by decide)).2 hbound

/-- The other namespace is not that of XML. -/
theorem Misreads.not_namespaceOf (h : F.Misreads i q u) : ¬ F.NamespaceOf i q (some u) := by
  cases h with
  | emptyStored _ h => exact h
  | emptyDefault huri hq hkind hbound =>
    rw [namespaceOf_element (by rw [huri]; rfl) hq hkind]
    intro h
    exact ((h "").1 rfl).2 rfl
  | strayDefault huri hq hkind _ _ =>
    rw [namespaceOf_other (by rw [huri]; rfl) hq hkind]
    nofun

/-- A name that is not misread gets the namespace of XML. -/
theorem namespaceOf_effectiveNamespace? (hname : (F.node i).name = some q)
    (hread : ∀ u, ¬ F.Misreads i q u) : F.NamespaceOf i q (F.effectiveNamespace? i) := by
  rw [effectiveNamespace?_eq hname]
  cases huri : q.uri with
  | some u =>
    dsimp only
    by_cases hu : u = ""
    · subst hu
      by_contra hother
      exact hread "" (.emptyStored huri hother)
    · rw [namespaceOf_stored (by rwa [huri]), huri]
  | none =>
    have hunstored : q.uri.getD "" = "" := by rw [huri]; rfl
    cases hq : q.nsPrefix with
    | some p =>
      dsimp only
      by_cases hp : p = "xml"
      · subst hp
        exact (namespaceOf_xml hunstored hq).2 (if_pos rfl)
      · rw [namespaceOf_prefixed hunstored hq hp]
        exact fun u => prefixNamespace?_eq_some_iff hp
    | none =>
      dsimp only
      by_cases hkind : (F.node i).kind = .element
      · rw [if_neg (by simp [hkind]), namespaceOf_element hunstored hq hkind]
        intro u
        rw [prefixNamespace?_eq_some_iff (by decide), iff_self_and]
        rintro hbound rfl
        exact hread "" (.emptyDefault huri hq hkind hbound)
      · rw [namespaceOf_other hunstored hq hkind]
        split
        · rfl
        · next hattribute =>
          rw [prefixNamespace?_eq_none_iff (by decide)]
          exact fun u hbound => hread u (.strayDefault huri hq hkind hattribute hbound)

/-- A name has one namespace at most. -/
theorem NamespaceOf.unique {ns' : Option String} (h : F.NamespaceOf i q ns)
    (h' : F.NamespaceOf i q ns') : ns = ns' := by
  by_cases huri : q.uri.getD "" = ""
  · cases hq : q.nsPrefix with
    | some p =>
      by_cases hp : p = "xml"
      · subst hp
        rw [namespaceOf_xml huri hq] at h h'
        rw [h, h']
      · rw [namespaceOf_prefixed huri hq hp] at h h'
        exact Option.ext fun u => (h u).trans (h' u).symm
    | none =>
      by_cases hkind : (F.node i).kind = .element
      · rw [namespaceOf_element huri hq hkind] at h h'
        exact Option.ext fun u => (h u).trans (h' u).symm
      · rw [namespaceOf_other huri hq hkind] at h h'
        rw [h, h']
  · rw [namespaceOf_stored huri] at h h'
    rw [h, h']

theorem passes_name_iff (hkind : (F.node i).kind ≠ .namespace) (hname : (F.node i).name = some q)
    (n : ExpandedName) :
    F.passes i (.name n) = true ↔ q.localName = n.localName ∧ F.effectiveNamespace? i = n.uri := by
  simp [passes, if_neg hkind, hasName, hname]

theorem not_passes_name_of_nameless (hkind : (F.node i).kind ≠ .namespace)
    (hname : (F.node i).name = none) (n : ExpandedName) : F.passes i (.name n) = false := by
  simp [passes, if_neg hkind, hasName, hname]

/-- A name test asks for the local name and for the namespace that XML gives the name, and it asks
    so for all names exactly at the nodes that are not misread. A misread node passes the tests for
    its local name and the other namespace. -/
theorem name_tests_in_scope (F : Forest) (i : NodeId) (hkind : (F.node i).kind ≠ .namespace) :
    ((∀ n : ExpandedName, F.passes i (.name n) = true ↔
        ∃ q, (F.node i).name = some q ∧ q.localName = n.localName ∧ F.NamespaceOf i q n.uri) ↔
      ∀ q u, (F.node i).name = some q → ¬ F.Misreads i q u) ∧
    ∀ q u, (F.node i).name = some q → F.Misreads i q u → ∀ n : ExpandedName,
      (F.passes i (.name n) = true ↔ q.localName = n.localName ∧ n.uri = some u) := by
  have hmisread (q : QName) (u : String) (hname : (F.node i).name = some q)
      (h : F.Misreads i q u) (n : ExpandedName) :
      F.passes i (.name n) = true ↔ q.localName = n.localName ∧ n.uri = some u := by
    rw [passes_name_iff hkind hname, h.effectiveNamespace?_eq hname, eq_comm (a := n.uri)]
  refine ⟨⟨?_, ?_⟩, hmisread⟩
  · intro hall q u hname h
    -- The test for the other namespace is passed, which it should not be.
    have hpassed := (hmisread q u hname h ⟨some u, q.localName⟩).2 ⟨rfl, rfl⟩
    obtain ⟨q', hname', -, hns⟩ := (hall _).1 hpassed
    obtain rfl : q = q' := Option.some.inj (hname.symm.trans hname')
    exact h.not_namespaceOf hns
  · intro hread n
    cases hname : (F.node i).name with
    | none => simp [not_passes_name_of_nameless hkind hname]
    | some q =>
      have hns := namespaceOf_effectiveNamespace? hname fun u => hread q u hname
      rw [passes_name_iff hkind hname]
      constructor
      · rintro ⟨hlocal, huri⟩
        exact ⟨q, rfl, hlocal, huri ▸ hns⟩
      · rintro ⟨_, hq, hlocal, huri⟩
        cases hq
        exact ⟨hlocal, hns.unique huri⟩

/-- An element declares the prefix of its own name anew. -/
theorem name_tests_in_scope_shadowed :
    let inner := (NodeContent.elementNamed "p:e").withMembers [0] [] []
    let outer := (NodeContent.elementNamed "o").withMembers [1] [] [2]
    let F := ((((empty .simple).add (.namespaceOf "p" "urn:b")).add (.namespaceOf "p" "urn:a")).add
      inner).add outer
    (F.node 2).kind ≠ .namespace ∧ ∀ n : ExpandedName, F.passes 2 (.name n) = true ↔
      ∃ q, (F.node 2).name = some q ∧ q.localName = n.localName ∧ F.NamespaceOf 2 q n.uri := by
  intro inner outer F
  have hkind : (F.node 2).kind ≠ .namespace := by decide +kernel
  have hname : (F.node 2).name = some ⟨some "p", "e", none⟩ := by decide +kernel
  refine ⟨hkind, (name_tests_in_scope F 2 hkind).1.2 ?_⟩
  -- A name with a prefix and no stored namespace is never misread.
  intro q u hq h
  obtain rfl : ⟨some "p", "e", none⟩ = q := Option.some.inj (hname.symm.trans hq)
  rcases h with ⟨huri, -⟩ | ⟨-, hprefix, -, -⟩ | ⟨-, hprefix, -, -, -⟩
  · cases huri
  · cases hprefix
  · cases hprefix

/-- An instruction below a default namespace, and an element below an empty one: neither passes the
    test for its name in no namespace, where XML puts both. -/
theorem default_namespace_strays :
    let inner := (NodeContent.elementNamed "e").withMembers [0] [] []
    let outer := (NodeContent.elementNamed "o").withMembers [1] [] [2, 3]
    let F := (((((empty .simple).add (.namespaceOf "" "")).add (.namespaceOf "" "urn:d")).add
      (.instructionOf "t" "")).add inner).add outer
    let asked (i : NodeId) (n : ExpandedName) :=
      ∃ q, (F.node i).name = some q ∧ q.localName = n.localName ∧ F.NamespaceOf i q n.uri
    asked 2 ⟨none, "t"⟩ ∧ F.passes 2 (.name ⟨none, "t"⟩) = false ∧
      F.passes 2 (.name ⟨some "urn:d", "t"⟩) = true ∧
      asked 3 ⟨none, "e"⟩ ∧ F.passes 3 (.name ⟨none, "e"⟩) = false ∧
      ¬ ∀ (i : NodeId) (n : ExpandedName), (F.node i).kind ≠ .namespace →
        (F.passes i (.name n) = true ↔ asked i n) := by
  intro inner outer F asked
  have hinstruction : asked 2 ⟨none, "t"⟩ := by
    refine ⟨.unprefixed "t", by decide +kernel, rfl, ?_⟩
    rw [namespaceOf_other rfl rfl (by decide +kernel)]
  have hpassed : F.passes 2 (.name ⟨none, "t"⟩) = false := by decide +kernel
  have helement : asked 3 ⟨none, "e"⟩ := by
    refine ⟨.unprefixed "e", by decide +kernel, rfl, ?_⟩
    rw [namespaceOf_element rfl rfl (by decide +kernel)]
    intro u
    have hempty : F.prefixNamespace? 3 "" = some "" := by decide +kernel
    rw [← prefixNamespace?_eq_some_iff (by decide), hempty]
    simp [eq_comm]
  refine ⟨hinstruction, hpassed, by decide +kernel, helement, by decide +kernel, fun hall => ?_⟩
  rw [(hall 2 ⟨none, "t"⟩ (by decide +kernel)).2 hinstruction] at hpassed
  cases hpassed

end XPathData.Forest
