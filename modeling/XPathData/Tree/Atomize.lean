import XPathData.Atomic.Cast
import XPathData.Tree.Basic

/-! # Typed values of nodes

  A node with the name of an atomic type as its annotation has its untyped content
  cast to that type; all other content stays as the backend gives it.
-/

namespace XPathData.Forest

/-- The type that the content of a node is cast to: its annotation, if that names a type
    with values of its own other than the untyped one. -/
def contentType? (F : Forest) (i : NodeId) : Option AtomicType :=
  ((F.node i).typeName.bind AtomicType.ofName?).filter fun t =>
    !t.isAbstract && t != .untypedAtomic

/-- Casts an untyped value, and leaves all others as they are. -/
def castUntyped (target : AtomicType) : Atomic → Except Error Atomic
  | .untyped s => (Atomic.untyped s).cast target .standard
  | a => .ok a

/-- The atomic values of a node. -/
def atomize (F : Forest) (i : NodeId) : Except Error (List Atomic) :=
  match F.contentType? i with
  | none => .ok (F.typedValue i)
  | some t => (F.typedValue i).mapM (castUntyped t)

end XPathData.Forest
