import XPathData.Tree.Basic

/-! # Making nodes

  The content of nodes of each kind, ready to be added to a forest.
-/

namespace XPathData

/-- A name as it is written: what stands before the first colon is the prefix. -/
def QName.ofText (s : String) : QName :=
  match Text.splitFirst ':' s.toList with
  | some (p, l) => ⟨some (String.ofList p), String.ofList l, none⟩
  | none => .unprefixed s

namespace NodeContent

/-- A document without children. -/
def document : NodeContent := blank .document

/-- An element without members. -/
def elementNamed (name : String) : NodeContent := { blank .element with name := some (.ofText name) }

/-- An attribute. -/
def attributeNamed (name value : String) : NodeContent :=
  { blank .attribute with name := some (.ofText name), value := some value }

/-- A text node. -/
def textOf (value : String) : NodeContent := { blank .text with value := some value }

/-- A comment. -/
def commentOf (value : String) : NodeContent := { blank .comment with value := some value }

/-- A processing instruction; its target is taken as it is. -/
def instructionOf (target data : String) : NodeContent :=
  { blank .processingInstruction with name := some (.unprefixed target), value := some data }

/-- The declaration of a prefix. -/
def namespaceOf (nsPrefix uri : String) : NodeContent :=
  { blank .namespace with name := some ⟨some nsPrefix, nsPrefix, none⟩, value := some uri }

/-- The same content with its name in a namespace. -/
def inNamespace (n : NodeContent) (uri : String) : NodeContent :=
  { n with name := n.name.map fun q => { q with uri := some uri } }

/-- The same content annotated with a schema type. -/
def typed (n : NodeContent) (localName : String) : NodeContent :=
  { n with typeName := some (.schema localName) }

/-- The same content with these members. -/
def withMembers (n : NodeContent) (namespaces attributes children : List NodeId) : NodeContent :=
  { n with namespaces, attributes, children }

end NodeContent

/-- Elements of one name, each the only child of the one before; the first of them carries
    `n` and stands for the innermost. Answers the new nodes from the inside out. -/
def Forest.addNested (F : Forest) (wrapper n : NodeContent) : Nat → Forest × List NodeId
  | 0 => (F, [])
  | 1 => (F.add n, [F.nodes.size])
  | d + 2 =>
    let (G, inner) := F.addNested wrapper n (d + 1)
    let child := inner.getLast?.toList
    (G.add (wrapper.withMembers [] [] child), inner ++ [G.nodes.size])

end XPathData
