import Mathlib.Data.List.Chain
import XPathData.Text.Space

/-! # Collapsed white space

  Collapsing leaves the words of a text with single spaces between them. A text that looks like
  this is not changed by it.

  * `Text.IsCollapsed` — no white space but single spaces between words
  * `Text.isCollapsed_collapseSpace` — what collapsing gives
  * `Text.IsCollapsed.collapseSpace_eq` — what collapsing leaves as it is
-/

namespace XPathData.Text

variable {c d : Char} {s w : List Char} {ws : List (List Char)}

/-! ### Words -/

theorem words_of_space (h : isXmlSpace c = true) : words (c :: s) = words s := by
  rw [words.eq_def]
  exact if_pos h

/-- The last word begins. -/
theorem words_of_last (hc : ¬isXmlSpace c = true) (hs : words s = []) :
    words (c :: s) = [[c]] := by
  rw [words.eq_def]
  simp only [if_neg hc, hs]

/-- A character stands before another one, which may belong to its word. -/
theorem words_of_pair (hc : ¬isXmlSpace c = true) (hs : words (d :: s) = w :: ws) :
    words (c :: d :: s) = if isXmlSpace d = true then [c] :: w :: ws else (c :: w) :: ws := by
  rw [words.eq_def]
  simp only [if_neg hc, hs]

theorem words_ne_nil (hc : ¬isXmlSpace c = true) : words (c :: s) ≠ [] := by
  cases hs : words s with
  | nil => simp [words_of_last hc hs]
  | cons w ws =>
    cases s with
    | nil => cases hs
    | cons d s =>
      rw [words_of_pair hc hs]
      split <;> simp

theorem ne_nil_of_mem_words {v : List Char} (h : v ∈ words s) : v ≠ [] := by
  induction s generalizing v with
  | nil => cases h
  | cons c s ih =>
    by_cases hc : isXmlSpace c = true
    · rw [words_of_space hc] at h
      exact ih h
    · cases hs : words s with
      | nil =>
        rw [words_of_last hc hs, List.mem_singleton] at h
        simp [h]
      | cons w ws =>
        rw [hs] at ih
        cases s with
        | nil => cases hs
        | cons d s =>
          rw [words_of_pair hc hs] at h
          -- The character is a word of its own, or the first one of the word behind it.
          split at h
          · rcases List.mem_cons.1 h with rfl | h
            · simp
            · exact ih h
          · rcases List.mem_cons.1 h with rfl | h
            · simp
            · exact ih (List.mem_cons_of_mem w h)

/-! ### Collapsing from the front -/

theorem collapseSpace_of_space (h : isXmlSpace c = true) :
    collapseSpace (c :: s) = collapseSpace s := by
  unfold collapseSpace
  rw [words_of_space h]

/-- Only a text without words is collapsed to nothing. -/
theorem collapseSpace_ne_nil (h : words s = w :: ws) : collapseSpace s ≠ [] := by
  have hw : w ≠ [] := ne_nil_of_mem_words (s := s) (h ▸ List.mem_cons_self)
  unfold collapseSpace
  rw [h]
  cases ws with
  | nil => simpa using hw
  | cons v vs => simp [List.intercalate_cons_cons]

/-- The last word ends. -/
theorem collapseSpace_of_last (hc : ¬isXmlSpace c = true) (hs : words s = []) :
    collapseSpace (c :: s) = [c] := by
  unfold collapseSpace
  rw [words_of_last hc hs]
  rfl

/-- A word goes on. -/
theorem collapseSpace_of_word (hc : ¬isXmlSpace c = true) (hd : ¬isXmlSpace d = true) :
    collapseSpace (c :: d :: s) = c :: collapseSpace (d :: s) := by
  obtain ⟨w, ws, hs⟩ := List.exists_cons_of_ne_nil (words_ne_nil (s := s) hd)
  unfold collapseSpace
  rw [words_of_pair hc hs, if_neg hd, hs]
  cases ws with
  | nil => simp
  | cons v vs => simp [List.intercalate_cons_cons]

/-- A word ends, and another one follows it. -/
theorem collapseSpace_of_gap (hc : ¬isXmlSpace c = true) (hd : isXmlSpace d = true)
    (hs : words s = w :: ws) : collapseSpace (c :: d :: s) = c :: ' ' :: collapseSpace s := by
  unfold collapseSpace
  rw [words_of_pair hc ((words_of_space hd).trans hs), if_pos hd, hs,
    List.intercalate_cons_cons]
  simp

/-! ### Collapsed texts -/

/-- No white space but single spaces, and none of them at the ends. -/
structure IsCollapsed (s : List Char) : Prop where
  onlySpaces : ∀ c ∈ s, isXmlSpace c = true → c = ' '
  apart : s.IsChain fun c d => c ≠ ' ' ∨ d ≠ ' '
  head : s.head? ≠ some ' '
  last : s.getLast? ≠ some ' '

theorem isCollapsed_iff : IsCollapsed s ↔
    (∀ c ∈ s, isXmlSpace c = true → c = ' ') ∧ (s.IsChain fun c d => c ≠ ' ' ∨ d ≠ ' ') ∧
      s.head? ≠ some ' ' ∧ s.getLast? ≠ some ' ' :=
  ⟨fun h => ⟨h.onlySpaces, h.apart, h.head, h.last⟩, fun h => ⟨h.1, h.2.1, h.2.2.1, h.2.2.2⟩⟩

theorem ne_space_of_not_isXmlSpace (h : ¬isXmlSpace c = true) : c ≠ ' ' := by
  rintro rfl
  exact h rfl

theorem isCollapsed_nil : IsCollapsed [] := ⟨by simp, .nil, by simp, by simp⟩

theorem isCollapsed_singleton (hc : ¬isXmlSpace c = true) : IsCollapsed [c] := by
  have hne := ne_space_of_not_isXmlSpace hc
  rw [isCollapsed_iff]
  simp [hc, hne]

theorem IsCollapsed.not_isXmlSpace (h : IsCollapsed (c :: s)) : ¬isXmlSpace c = true := by
  intro hc
  have hspace := h.onlySpaces c List.mem_cons_self hc
  exact h.head (congrArg some hspace)

theorem isCollapsed_word_iff (hc : ¬isXmlSpace c = true) (hd : ¬isXmlSpace d = true) :
    IsCollapsed (c :: d :: s) ↔ IsCollapsed (d :: s) := by
  have hnec := ne_space_of_not_isXmlSpace hc
  have hned := ne_space_of_not_isXmlSpace hd
  rw [isCollapsed_iff, isCollapsed_iff]
  simp [List.isChain_cons_cons, hc, hd, hnec, hned]

theorem isCollapsed_gap_iff (hc : ¬isXmlSpace c = true) :
    IsCollapsed (c :: ' ' :: s) ↔ s ≠ [] ∧ IsCollapsed s := by
  have hnec := ne_space_of_not_isXmlSpace hc
  rw [isCollapsed_iff, isCollapsed_iff]
  cases s with
  | nil => simp
  | cons d s => 
    simp [List.isChain_cons_cons, hc, hnec]
    tauto

/-- A word may begin a character earlier. -/
theorem IsCollapsed.cons (hc : ¬isXmlSpace c = true) (h : IsCollapsed s) :
    IsCollapsed (c :: s) := by
  cases s with
  | nil => exact isCollapsed_singleton hc
  | cons d s => exact (isCollapsed_word_iff hc h.not_isXmlSpace).2 h

/-- Collapsing gives a collapsed text. -/
theorem isCollapsed_collapseSpace (s : List Char) : IsCollapsed (collapseSpace s) := by
  induction s with
  | nil => exact isCollapsed_nil
  | cons c s ih =>
    by_cases hc : isXmlSpace c = true
    · rw [collapseSpace_of_space hc]
      exact ih
    · cases hs : words s with
      | nil =>
        rw [collapseSpace_of_last hc hs]
        exact isCollapsed_singleton hc
      | cons w ws =>
        cases s with
        | nil => cases hs
        | cons d s =>
          by_cases hd : isXmlSpace d = true
          · rw [words_of_space hd] at hs
            rw [collapseSpace_of_space hd] at ih
            rw [collapseSpace_of_gap hc hd hs]
            exact (isCollapsed_gap_iff hc).2 ⟨collapseSpace_ne_nil hs, ih⟩
          · rw [collapseSpace_of_word hc hd]
            exact ih.cons hc

/-- Collapsing leaves a collapsed text as it is. -/
theorem IsCollapsed.collapseSpace_eq : ∀ {s : List Char}, IsCollapsed s → collapseSpace s = s
  | [], _ => rfl
  | [c], h => collapseSpace_of_last h.not_isXmlSpace rfl
  | c :: d :: s, h => by
    have hc := h.not_isXmlSpace
    by_cases hd : isXmlSpace d = true
    · obtain rfl : d = ' ' := h.onlySpaces d (by simp) hd
      obtain ⟨hne, hs⟩ := (isCollapsed_gap_iff hc).1 h
      obtain ⟨b, t, rfl⟩ := List.exists_cons_of_ne_nil hne
      -- What follows the space begins with a word.
      obtain ⟨w, ws, hwords⟩ :=
        List.exists_cons_of_ne_nil (words_ne_nil (s := t) hs.not_isXmlSpace)
      rw [collapseSpace_of_gap hc hd hwords, hs.collapseSpace_eq]
    · rw [collapseSpace_of_word hc hd, ((isCollapsed_word_iff hc hd).1 h).collapseSpace_eq]

/-! ### Other normal forms -/

/-- Where a space is the only white space, nothing is replaced. -/
theorem replaceSpace_eq_self (h : ∀ c ∈ s, isXmlSpace c = true → c = ' ') : replaceSpace s = s := by
  unfold replaceSpace
  refine (List.map_congr_left fun c hc => ?_).trans s.map_id
  split
  · next hspace => exact (h c hc hspace).symm
  · rfl

theorem onlySpaces_replaceSpace (s : List Char) :
    ∀ c ∈ replaceSpace s, isXmlSpace c = true → c = ' ' := by
  intro c hc hspace
  obtain ⟨d, -, rfl⟩ := List.mem_map.1 hc
  split at hspace
  · next hd => exact if_pos hd
  · next hd => exact absurd hspace hd

end XPathData.Text
