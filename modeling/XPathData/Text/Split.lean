/-! # Cutting text

  Text is cut as a list of characters. Each function here says where it cuts and
  loses nothing but the separator.
-/

namespace XPathData.Text

/-- The parts before and after the first `c`. -/
def splitFirst (c : Char) : List Char → Option (List Char × List Char)
  | [] => none
  | x :: xs =>
    if x = c then some ([], xs)
    else (splitFirst c xs).map fun (before, after) => (x :: before, after)

/-- The parts before and after the last `c`. -/
def splitLast (c : Char) : List Char → Option (List Char × List Char)
  | [] => none
  | x :: xs =>
    match splitLast c xs with
    | some (before, after) => some (x :: before, after)
    | none => if x = c then some ([], xs) else none

/-- The pieces between the occurrences of `c`; always at least one. -/
def splitAll (c : Char) : List Char → List (List Char)
  | [] => [[]]
  | x :: xs =>
    if x = c then [] :: splitAll c xs
    else match splitAll c xs with
      | [] => [[x]]
      | piece :: pieces => (x :: piece) :: pieces

/-- What follows `lead`, if the text starts with it. -/
def dropLead? (lead : List Char) (s : List Char) : Option (List Char) :=
  lead.isPrefixOf? s

/-- Leaves out the characters of a class at both ends. -/
def trim (blank : Char → Bool) (s : List Char) : List Char :=
  ((s.dropWhile blank).reverse.dropWhile blank).reverse

/-- Number of bytes of the text in UTF-8. -/
def utf8Size (s : List Char) : Nat := s.foldr (fun c n => c.utf8Size + n) 0

/-- Takes characters from the front that have `n` bytes in UTF-8 together. -/
def takeBytes : Nat → List Char → Option (List Char × List Char)
  | 0, s => some ([], s)
  | _ + 1, [] => none
  | n + 1, c :: rest =>
    if c.utf8Size ≤ n + 1 then
      (takeBytes (n + 1 - c.utf8Size) rest).map fun (taken, left) => (c :: taken, left)
    else none
termination_by _ s => s.length

/-! ### Laws -/

theorem splitFirst_eq_some {c : Char} {s before after : List Char}
    (h : splitFirst c s = some (before, after)) : s = before ++ c :: after := by
  induction s generalizing before with
  | nil => simp [splitFirst] at h
  | cons x xs ih =>
    simp only [splitFirst] at h
    split at h
    · next hx => simp at h; simp [h, hx]
    · obtain ⟨⟨b, a⟩, hs, hp⟩ := Option.map_eq_some_iff.1 h
      simp at hp
      obtain ⟨rfl, rfl⟩ := hp
      simp [ih hs]

theorem splitLast_eq_some {c : Char} {s before after : List Char}
    (h : splitLast c s = some (before, after)) : s = before ++ c :: after := by
  induction s generalizing before after with
  | nil => simp [splitLast] at h
  | cons x xs ih =>
    simp only [splitLast] at h
    split at h
    · next b a hs =>
      simp at h
      obtain ⟨rfl, rfl⟩ := h
      simp [ih hs]
    · split at h
      · next hx => simp at h; simp [h, hx]
      · simp at h

theorem utf8Size_append (s t : List Char) : utf8Size (s ++ t) = utf8Size s + utf8Size t := by
  induction s with
  | nil => exact (Nat.zero_add _).symm
  | cons c s ih =>
    show c.utf8Size + utf8Size (s ++ t) = c.utf8Size + utf8Size s + utf8Size t
    rw [ih, Nat.add_assoc]

end XPathData.Text
