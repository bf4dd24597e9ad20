/-! # Names

  An expanded name is a local part with an optional namespace; two names are
  equal when both parts are. A qualified name also remembers the prefix it was
  written with, which takes no part in matching.
-/

namespace XPathData

/-! ### Well-known namespaces -/

namespace Namespace

/-- Namespace of the built-in schema types. -/
def schema : String := "http://www.w3.org/2001/XMLSchema"

/-- Namespace of the standard function library. -/
def functions : String := "http://www.w3.org/2005/xpath-functions"

/-- Namespace of the standard error codes. -/
def errors : String := "http://www.w3.org/2005/xqt-errors"

/-- Namespace that the prefix `xml` is always bound to. -/
def xml : String := "http://www.w3.org/XML/1998/namespace"

/-- The codepoint collation, the only one that strings are compared by. -/
def codepointCollation : String := "http://www.w3.org/2005/xpath-functions/collation/codepoint"

end Namespace

/-! ### Expanded names -/

/-- A local name, possibly in a namespace. -/
structure ExpandedName where
  /-- The namespace, if the name is in one. -/
  uri : Option String
  /-- The local part. -/
  localName : String
  deriving DecidableEq, Repr, Inhabited

namespace ExpandedName

/-- A name in the schema namespace. -/
def schema (localName : String) : ExpandedName := ⟨some Namespace.schema, localName⟩

/-- A name in the namespace of the standard functions. -/
def function (localName : String) : ExpandedName := ⟨some Namespace.functions, localName⟩

/-- A namespace in braces before a local part. -/
def braced (uri localName : String) : String := "Q\x7b" ++ uri ++ "\x7d" ++ localName

/-- Names of the two standard libraries are written with their usual prefix,
    all other qualified names with their namespace in braces. -/
def text (n : ExpandedName) : String :=
  match n.uri with
  | none => n.localName
  | some uri =>
    if uri = Namespace.schema then "xs:" ++ n.localName
    else if uri = Namespace.functions then "fn:" ++ n.localName
    else braced uri n.localName

end ExpandedName

/-! ### Qualified names -/

/-- A name as it is written on a node or held in a value. -/
structure QName where
  /-- The prefix before the colon, if any. -/
  nsPrefix : Option String
  /-- The part after the colon. -/
  localName : String
  /-- The namespace, if it is known. -/
  uri : Option String
  deriving DecidableEq, Repr, Inhabited

namespace QName

/-- A name without prefix and namespace. -/
def unprefixed (localName : String) : QName := ⟨none, localName, none⟩

/-- The prefix, a colon and the local part; an empty prefix is not written. -/
def text (q : QName) : String :=
  match q.nsPrefix with
  | some p => if p.isEmpty then q.localName else p ++ ":" ++ q.localName
  | none => q.localName

end QName

end XPathData
