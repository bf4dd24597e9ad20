import XPathData.Unicode.CharSet

/-! # Tables of character sets

  A table keeps sets under their names, each as the text of its intervals. A name is
  written in lower case and without spaces, hyphens and underscores.
-/

namespace XPathData.Unicode

/-- Sets of characters as texts, each with its names. -/
abbrev SetTable := List (List String × String)

namespace SetTable

/-- The set with a name. -/
def find? (t : SetTable) (name : String) : Option CharSet :=
  (List.find? (fun row => row.1.contains name) t).map fun row => .ofText row.2

end SetTable

end XPathData.Unicode
