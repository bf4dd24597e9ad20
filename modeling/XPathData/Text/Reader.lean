import XPathData.Text.Digits
import XPathData.Text.Split

/-! # Reading text

  A text is read from left to right with a state at hand. The reading fails where the text
  is faulty.
-/

namespace XPathData.Text

/-- A reading of text: what is still to be read, and a state. -/
abbrev Reader (σ : Type) := StateT (List Char × σ) Option

namespace Reader

variable {σ : Type}

/-! ### The state -/

/-- The state. -/
def state : Reader σ σ := do return (← get).2

/-- Changes the state. -/
def update (f : σ → σ) : Reader σ Unit := modify fun s => (s.1, f s.2)

/-! ### Characters -/

/-- What is still to be read. -/
def rest : Reader σ (List Char) := do return (← get).1

/-- Goes on with other characters. -/
def goTo (rest : List Char) : Reader σ Unit := modify fun s => (rest, s.2)

/-- The next character, left where it is. -/
def peek? : Reader σ (Option Char) := do return (← rest).head?

/-- Goes on behind the next character. -/
def skip : Reader σ Unit := do goTo (← rest).tail

/-- Goes on behind a text if it comes next, and tells so. -/
def accept (text : String) : Reader σ Bool := do
  match dropLead? text.toList (← rest) with
  | some r => goTo r; return true
  | none => return false

/-- Goes on behind a text that must come next. -/
def expect (text : String) : Reader σ Unit := do
  unless ← accept text do failure

/-- Reads decimal digits; a number of more than a word is none. -/
def number? : Reader σ (Option Nat) := do
  let s ← rest
  let digits := s.takeWhile isDigit
  let n := readDigits digits
  if digits.isEmpty || 0xFFFFFFFFFFFFFFFF < n then return none
  goTo (s.drop digits.length)
  return some n

end Reader

end XPathData.Text
