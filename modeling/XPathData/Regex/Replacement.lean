import XPathData.Error
import XPathData.Text.Digits

/-! # Replacement strings

  A replacement string is literal text with references to groups: a dollar sign and
  a number. A backslash makes a dollar sign or another backslash literal. Digits
  belong to the number as long as it names a group of the pattern.
-/

namespace XPathData

/-! ### Pieces -/

/-- A piece of a replacement. -/
inductive ReplacementPiece where
  /-- Text that stands for itself. -/
  | literal (s : List Char)
  /-- What a group has captured. -/
  | group (index : Nat)
  deriving DecidableEq, Repr

/-- A replacement. -/
abbrev Replacement := List ReplacementPiece

/-- What makes a replacement string invalid. -/
inductive ReplacementFault where
  /-- A backslash that is not followed by a backslash or a dollar sign. -/
  | escape
  /-- A dollar sign that is not followed by a digit. -/
  | reference
  deriving DecidableEq, Repr

/-- The message for a fault. -/
def ReplacementFault.message : ReplacementFault → String
  | escape => "invalid escape in replacement string"
  | reference => "'$' must be followed by a digit"

/-- The error for a fault. -/
def ReplacementFault.error (f : ReplacementFault) : Error := .ofCode .invalidReplacement f.message

namespace Replacement

/-! ### Reading -/

/-- Goes on with the number of a group as long as it is one of `groups`, and gives what
    follows it. -/
def groupNumber (groups n : Nat) : List Char → Nat × List Char
  | [] => (n, [])
  | c :: s =>
    if Text.isDigit c ∧ 10 * n + Text.digitValue c ≤ groups then
      groupNumber groups (10 * n + Text.digitValue c) s
    else (n, c :: s)

/-- A number leaves no more than there was. -/
theorem length_groupNumber_le (groups n : Nat) (s : List Char) :
    (groupNumber groups n s).2.length ≤ s.length := by
  induction s generalizing n with
  | nil => simp [groupNumber]
  | cons c s ih =>
    simp only [groupNumber]
    split
    · exact Nat.le_trans (ih _) (by simp)
    · simp

/-- A literal that is closed; there is no piece for an empty one. -/
def close (pending : List Char) : Replacement :=
  if pending.isEmpty then [] else [.literal pending]

@[simp] theorem close_nil : close [] = [] := rfl

@[simp] theorem close_cons (c : Char) (s : List Char) : close (c :: s) = [.literal (c :: s)] := rfl

/-- Reads the rest of a replacement string, while a literal is pending that a reference or the end
    closes. -/
def scan (groups : Nat) (pending s : List Char) : Except ReplacementFault Replacement :=
  match s with
  | [] => .ok (close pending)
  | '\\' :: c :: s =>
    if c = '\\' ∨ c = '$' then scan groups (pending ++ [c]) s else .error .escape
  | ['\\'] => .error .escape
  | '$' :: c :: s =>
    have := length_groupNumber_le groups (Text.digitValue c) s
    if Text.isDigit c then
      (scan groups [] (groupNumber groups (Text.digitValue c) s).2).map fun r =>
        close pending ++ .group (groupNumber groups (Text.digitValue c) s).1 :: r
    else .error .reference
  | ['$'] => .error .reference
  | c :: s => scan groups (pending ++ [c]) s
termination_by s.length

/-- Reads a replacement string for a pattern with some number of groups. -/
def read (groups : Nat) (s : List Char) : Except ReplacementFault Replacement := scan groups [] s

/-! ### Writing -/

/-- The replacement string of a text that stands for itself. -/
def escape : List Char → List Char
  | [] => []
  | c :: s => if c = '\\' ∨ c = '$' then '\\' :: c :: escape s else c :: escape s

/-- The text that a replacement stands for, given what the groups have captured. -/
def expand (captured : Nat → List Char) (r : Replacement) : List Char :=
  r.flatMap fun piece =>
    match piece with
    | .literal s => s
    | .group i => captured i

@[simp] theorem expand_nil (captured : Nat → List Char) : expand captured [] = [] := rfl

@[simp] theorem expand_literal (captured : Nat → List Char) (s : List Char) (r : Replacement) :
    expand captured (.literal s :: r) = s ++ expand captured r := rfl

@[simp] theorem expand_group (captured : Nat → List Char) (i : Nat) (r : Replacement) :
    expand captured (.group i :: r) = captured i ++ expand captured r := rfl

@[simp] theorem expand_append (captured : Nat → List Char) (r q : Replacement) :
    expand captured (r ++ q) = expand captured r ++ expand captured q := List.flatMap_append

end Replacement

end XPathData
