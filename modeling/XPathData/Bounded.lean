/-! # Bounded integers

  An integer between two bounds, kept with the proof that it lies there. Sums and
  differences are formed exactly and then checked, so nothing wraps.
-/

namespace XPathData

/-- An integer from `low` to `high`. -/
structure Bounded (low high : Int) where
  /-- The integer. -/
  val : Int
  low_le : low ≤ val
  le_high : val ≤ high
  deriving DecidableEq, Repr

namespace Bounded

variable {low high : Int}

theorem ext_val {a b : Bounded low high} (h : a.val = b.val) : a = b := by
  cases a; cases b; simp_all

/-- The integer with its bounds checked. -/
def ofInt? (n : Int) : Option (Bounded low high) :=
  if h : low ≤ n ∧ n ≤ high then some ⟨n, h.1, h.2⟩ else none

@[simp] theorem ofInt?_eq_some_iff {n : Int} {b : Bounded low high} :
    ofInt? n = some b ↔ b.val = n := by
  unfold ofInt?
  constructor
  · intro h
    split at h
    · simp at h; rw [← h]
    · simp at h
  · rintro rfl
    simp [b.low_le, b.le_high]

@[simp] theorem ofInt?_eq_none_iff {n : Int} :
    (ofInt? n : Option (Bounded low high)) = none ↔ ¬(low ≤ n ∧ n ≤ high) := by
  unfold ofInt?
  split <;> simp_all

/-- The sum, if it stays in bounds. -/
def add? (a b : Bounded low high) : Option (Bounded low high) := ofInt? (a.val + b.val)

/-- The difference, if it stays in bounds. -/
def sub? (a b : Bounded low high) : Option (Bounded low high) := ofInt? (a.val - b.val)

/-- The product, if it stays in bounds. -/
def mul? (a b : Bounded low high) : Option (Bounded low high) := ofInt? (a.val * b.val)

/-- The opposite, if it stays in bounds. -/
def neg? (a : Bounded low high) : Option (Bounded low high) := ofInt? (-a.val)

end Bounded

/-- A signed number of 64 bits. -/
abbrev Signed64 := Bounded (-0x8000000000000000) 0x7FFFFFFFFFFFFFFF

/-- A natural number, or the greatest number of 64 bits in place of a greater one. -/
def Signed64.ofNat (n : Nat) : Signed64 := 
  ⟨min n 0x7FFFFFFFFFFFFFFF, by omega, by omega⟩

/-- A signed number of 32 bits. -/
abbrev Signed32 := Bounded (-0x80000000) 0x7FFFFFFF

/-- The number zero. -/
def Signed32.zero : Signed32 := ⟨0, by decide, by decide⟩

end XPathData
