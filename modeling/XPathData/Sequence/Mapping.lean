import XPathData.Sequence.Item

/-! # Functions on items

  Simple functions that sequences can be mapped by.
-/

namespace XPathData.Item

/-- The signed number of 64 bits that an integer stands for when only its low bits count. -/
def wrap64 (n : Int) : Signed64 :=
  ⟨n.bmod 0x10000000000000000, by have := Int.le_bmod (x := n) (m := 0x10000000000000000) (by decide); omega,
    by have := Int.bmod_lt (x := n) (m := 0x10000000000000000) (by decide); omega⟩

/-- The next integer in place of an integer of 64 bits, going round at the end. -/
def increment : Item → Item
  | atomic (.integer .integer n) => atomic (.int (wrap64 (n.val + 1)))
  | x => x

/-- An error in place of a string, with the string as its message. -/
def refuseString : Item → Entry
  | atomic (.string .string s) => .error (.ofCode .invalidArgument s)
  | x => .ok x

end XPathData.Item
