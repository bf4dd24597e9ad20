import XPathData.Atomic.Kind
import XPathData.Tree.Basic

/-! # Node tests

  A node test asks for the kind, the name or the type annotation of a node. Names
  are compared by local part and namespace. A name without a namespace of its own
  takes that of its prefix, or the default namespace for elements and others but
  attributes, as the elements above declare it.
-/

namespace XPathData

/-! ### Tests -/

/-- What an element or attribute test asks of the name. -/
inductive NameTest where
  /-- Any name. -/
  | any
  /-- This name. -/
  | named (name : ExpandedName)
  deriving DecidableEq, Repr

/-- A condition on a node. -/
inductive NodeTest where
  /-- Every node. -/
  | any
  /-- A node with this name; a namespace node with this prefix. -/
  | name (name : ExpandedName)
  /-- A node with a name. -/
  | anyName
  /-- A node with a name in this namespace. -/
  | inNamespace (uri : String)
  /-- A node with this local name. -/
  | withLocalName (localName : String)
  | text
  | comment
  /-- A processing instruction, with this target if there is one. -/
  | processingInstruction (target : Option String)
  | document
  /-- A document whose only element passes the inner test. -/
  | documentOf (inner : NodeTest)
  /-- An element with this name and an annotation that derives from this type. -/
  | element (name : Option NameTest) (type : Option ExpandedName)
  /-- An attribute with this name and an annotation that derives from this type. -/
  | attribute (name : Option NameTest) (type : Option ExpandedName)
  deriving DecidableEq, Repr

/-! ### Text -/

/-- A name with its namespace in braces. -/
def ExpandedName.bracedText (n : ExpandedName) : String :=
  match n.uri with
  | some uri => braced uri n.localName
  | none => n.localName

/-- The text of a name test. -/
def NameTest.text : NameTest → String
  | any => "*"
  | named n => n.bracedText

namespace NodeTest

/-- The arguments of an element or attribute test. -/
def argumentsText (name : Option NameTest) (type : Option ExpandedName) : String :=
  (name.map NameTest.text).getD "" ++
    match type with
    | some t => ", " ++ t.text
    | none => ""

/-- The text of a test. -/
def toText : NodeTest → String
  | .any => "node()"
  | .name n => n.bracedText
  | .anyName => "*"
  | .inNamespace uri => ExpandedName.braced uri "*"
  | .withLocalName l => "*:" ++ l
  | .text => "text()"
  | .comment => "comment()"
  | .processingInstruction target => "processing-instruction(" ++ target.getD "" ++ ")"
  | .document => "document-node()"
  | .documentOf inner => "document-node(" ++ inner.toText ++ ")"
  | .element n t => "element(" ++ argumentsText n t ++ ")"
  | .attribute n t => "attribute(" ++ argumentsText n t ++ ")"

end NodeTest

/-! ### Namespaces of nodes -/

namespace Forest

/-- The text of the first of some namespace nodes that is for a prefix; a node without a
    prefix is for the empty one. -/
def declared? (F : Forest) (nsPrefix : String) (declarations : List NodeId) : Option String :=
  (declarations.find? fun d =>
      (F.node d).name.any fun q => q.nsPrefix.getD "" = nsPrefix).map F.stringValue

/-- The namespace that a prefix has at a node: the nearest element above that declares it
    decides, and `xml` has its own. -/
def prefixNamespace? (F : Forest) (i : NodeId) (nsPrefix : String) : Option String :=
  if nsPrefix = "xml" then some Namespace.xml
  else (F.ancestors i).findSome? fun a =>
    if (F.node a).kind = .element then F.declared? nsPrefix (F.node a).namespaces else none

/-- The namespace of the name of a node. -/
def effectiveNamespace? (F : Forest) (i : NodeId) : Option String :=
  match (F.node i).name with
  | none => none
  | some q =>
    match q.uri, q.nsPrefix with
    | some uri, _ => some uri
    | none, some p => F.prefixNamespace? i p
    -- The default namespace is none of attributes.
    | none, none => if (F.node i).kind = .attribute then none else F.prefixNamespace? i ""

/-- The value of the nearest declaration of a prefix at a node or above it. -/
def lookupNamespace? (F : Forest) (i : NodeId) (nsPrefix : String) : Option String :=
  ((F.ancestors i).findSome? fun a =>
    (F.node a).namespaces.find? fun d =>
      (F.node d).name.any fun q => q.nsPrefix = some nsPrefix).bind fun d => (F.node d).value

/-! ### Passing a test -/

/-- A node has this name in this namespace. -/
def hasName (F : Forest) (i : NodeId) (n : ExpandedName) : Bool :=
  (F.node i).name.any (fun q => q.localName = n.localName) && F.effectiveNamespace? i == n.uri

/-- A node has this local name. -/
def hasLocalName (F : Forest) (i : NodeId) (l : String) : Bool :=
  (F.node i).name.any fun q => q.localName = l

/-- A node passes a name test. -/
def passesName (F : Forest) (i : NodeId) : Option NameTest → Bool
  | none | some .any => true
  | some (.named n) => F.hasName i n

/-- The annotation of a node; without one it is untyped. -/
def typeNameOf (F : Forest) (i : NodeId) : ExpandedName :=
  (F.node i).typeName.getD
    (.schema (if (F.node i).kind = .element then "untyped" else "untypedAtomic"))

/-- The annotation of a node is a type or derives from it. -/
def passesType (F : Forest) (i : NodeId) : Option ExpandedName → Bool
  | none => true
  | some t =>
    t == .schema "anyType" || F.typeNameOf i == t ||
      match AtomicType.ofName? (F.typeNameOf i), AtomicType.ofName? t with
      | some actual, some wanted => actual.derivesFrom wanted
      | _, _ => false

/-- The only element child of a document that has no other children but comments and
    processing instructions. -/
def documentElement? (F : Forest) (i : NodeId) : Option NodeId :=
  match (F.node i).children.filter fun c =>
      (F.node c).kind != .comment && (F.node c).kind != .processingInstruction with
  | [c] => if (F.node c).kind = .element then some c else none
  | _ => none

/-- A node passes a test. -/
def passes (F : Forest) (i : NodeId) : NodeTest → Bool
  | .any => true
  | .name n =>
    -- The name of a namespace node is a prefix, which lies in no namespace.
    if (F.node i).kind = .namespace then F.hasLocalName i n.localName else F.hasName i n
  | .anyName => (F.node i).name.isSome
  | .inNamespace uri => F.effectiveNamespace? i == some uri
  | .withLocalName l => F.hasLocalName i l
  | .text => (F.node i).kind = .text
  | .comment => (F.node i).kind = .comment
  | .processingInstruction target =>
    (F.node i).kind = .processingInstruction && target.all (F.hasLocalName i)
  | .document => (F.node i).kind = .document
  | .documentOf inner =>
    (F.node i).kind = .document &&
      match F.documentElement? i with
      | some c => F.passes c inner
      | none => false
  | .element n t => (F.node i).kind = .element && F.passesName i n && F.passesType i t
  | .attribute n t => (F.node i).kind = .attribute && F.passesName i n && F.passesType i t

end Forest

end XPathData
