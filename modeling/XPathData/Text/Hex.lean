import XPathData.Text.Split

/-! # Bytes as hexadecimal digits

  A byte is written as two digits, the high half first. Writing uses capital
  letters, reading takes letters of either case.
-/

namespace XPathData.Text.Hex

/-- The value of a hexadecimal digit. -/
def value? (c : Char) : Option Nat :=
  if '0' ≤ c ∧ c ≤ '9' then some (c.toNat - '0'.toNat)
  else if 'A' ≤ c ∧ c ≤ 'F' then some (c.toNat - 'A'.toNat + 10)
  else if 'a' ≤ c ∧ c ≤ 'f' then some (c.toNat - 'a'.toNat + 10)
  else none

/-- The number that a run of digits denotes; what is no digit counts as zero. -/
def number (s : List Char) : Nat := s.foldl (fun n c => 16 * n + (value? c).getD 0) 0

/-- The digit of a value below sixteen. -/
def digit (n : Nat) : Char :=
  if n < 10 then Char.ofNat ('0'.toNat + n) else Char.ofNat ('A'.toNat + (n - 10))

/-- The digits of a run of bytes. -/
def encode (bytes : List UInt8) : List Char :=
  bytes.flatMap fun b => [digit (b.toNat / 16), digit (b.toNat % 16)]

/-- The bytes of pairs of digits; a last character without a partner is left out. -/
def decodePairs : List Char → Option (List UInt8)
  | high :: low :: rest => do
    let h ← value? high
    let l ← value? low
    return UInt8.ofNat (16 * h + l) :: (← decodePairs rest)
  | _ => some []

/-- The bytes of a text that has an even number of bytes itself. -/
def decode? (s : List Char) : Option (List UInt8) :=
  if utf8Size s % 2 = 0 then decodePairs s else none

end XPathData.Text.Hex
