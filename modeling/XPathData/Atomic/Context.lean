import XPathData.Calendar.DateTime
import XPathData.Name

/-! # The context of value operations

  Times without a timezone take the one of the context, and prefixes are looked up
  in its bindings. The prefix `xml` always has its own namespace.
-/

namespace XPathData

/-- What operations on values depend on beside the values. -/
structure ValueContext where
  /-- The timezone of times without one. -/
  zone : Offset
  /-- Prefixes with their namespaces; the first binding of a prefix counts. -/
  namespaces : List (String × String)

namespace ValueContext

/-- UTC and the prefixes of the standard namespaces. -/
def standard : ValueContext where
  zone := .utc
  namespaces := [("xml", Namespace.xml), ("xs", Namespace.schema), ("fn", Namespace.functions)]

/-- Binds a prefix in place of an older binding; `xml` stays as it is. -/
def bind (ctx : ValueContext) (nsPrefix uri : String) : ValueContext :=
  if nsPrefix = "xml" then ctx
  else { ctx with namespaces := (nsPrefix, uri) :: ctx.namespaces }

/-- The namespace of a prefix. -/
def resolve? (ctx : ValueContext) (nsPrefix : String) : Option String :=
  ctx.namespaces.lookup nsPrefix

/-- The timezone of a value: its own or that of the context. -/
def zoneOf (ctx : ValueContext) (zone : Option Offset) : Offset := zone.getD ctx.zone

end ValueContext

end XPathData
