import XPathData.Unicode.Intervals

/-! # Characters as bytes

  In UTF-8 a character is one byte, or a first byte and up to three more that hold a digit to
  the base 64 each. The characters of an interval are those of some sequences of ranges, one
  range for each byte.
-/

namespace XPathData.Unicode.Utf8

/-- Ranges of bytes, one for each byte of some characters. -/
abbrev Ranges := List (Nat × Nat)

/-- The numbers from `first` to `last` as sequences of ranges of digits: a first digit without
    bounds and `n` digits to the base 64 behind it. -/
def digits : Nat → Nat → Nat → List Ranges
  | 0, first, last => [[(first, last)]]
  | n + 1, first, last =>
    let unit := Nat.pow 64 (n + 1)
    let a := first / unit
    let b := last / unit
    if a = b then (digits n (first % unit) (last % unit)).map ((a, a) :: ·)
    else
      let low :=
        if first % unit = 0 then [] else (digits n (first % unit) (unit - 1)).map ((a, a) :: ·)
      let high :=
        if last % unit = unit - 1 then [] else (digits n 0 (last % unit)).map ((b, b) :: ·)
      let first := if low.isEmpty then a else a + 1
      let last := if high.isEmpty then b else b - 1
      let middle :=
        if first ≤ last then [(first, last) :: List.replicate (n + 1) (0, 63)] else []
      low ++ middle ++ high

/-- The lengths that characters have: the first and the last code point of one length, the
    number of bytes behind the first byte, and what is added to the first digit. -/
def lengths : List (Nat × Nat × Nat × Nat) :=
  [(0, 0x7F, 0, 0), (0x80, 0x7FF, 1, 0xC0), (0x800, 0xD7FF, 2, 0xE0), (0xE000, 0xFFFF, 2, 0xE0),
    (0x10000, 0x10FFFF, 3, 0xF0)]

/-- Adds to the first digit and makes bytes of the others. -/
def toBytes (lead : Nat) : Ranges → Ranges
  | [] => []
  | (a, b) :: r => (a + lead, b + lead) :: r.map fun (a, b) => (a + 0x80, b + 0x80)

/-- The characters of intervals as sequences of ranges of bytes. -/
def ofIntervals (s : Intervals) : List Ranges :=
  s.flatMap fun (first, last) =>
    lengths.flatMap fun (low, high, n, lead) =>
      let first := max first low
      let last := min last high
      if first ≤ last then (digits n first last).map (toBytes lead) else []

/-- The bytes of a text. -/
def bytes (s : List Char) : List Nat :=
  s.flatMap fun c => (String.utf8EncodeChar c).map (·.toNat)

end XPathData.Unicode.Utf8
