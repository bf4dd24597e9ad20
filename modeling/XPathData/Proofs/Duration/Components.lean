import XPathData.Duration.Lexical
import XPathData.Proofs.Decimal.Text

/-! # Components of durations read back

  A duration is written as numerals with letters behind them, and reading cuts the text at the
  letters again. Letters are found in their order, so that any of them may be left out.

  * `DurationLiteral.components_flat` — cutting a run of components
  * `DurationLiteral.readComponents_flat` — cutting both runs around the `T`
-/

namespace XPathData.DurationLiteral

open Text

variable {point : Bool} {letters : List Char} {l date time : List (List Char × Char)}

/-- The text of components: each numeral with its letter behind it. -/
def flat (l : List (List Char × Char)) : List Char := l.flatMap fun c => c.1 ++ [c.2]

/-- Components that are written in the order of their letters: every numeral has a digit, and
    only one of seconds may have a point. -/
structure Legible (point : Bool) (letters : List Char) (l : List (List Char × Char)) : Prop where
  order : (l.map Prod.snd).Sublist letters
  numeral : ∀ c ∈ l, c.1 ≠ [] ∧ ∀ x ∈ c.1, isDigit x = true ∨ x = '.' ∧ point = true ∧ c.2 = 'S'

@[simp] theorem flat_nil : flat [] = [] := rfl

@[simp] theorem flat_cons (c : List Char × Char) (l : List (List Char × Char)) :
    flat (c :: l) = c.1 ++ c.2 :: flat l := by
  simp [flat]

@[simp] theorem flat_append (l m : List (List Char × Char)) :
    flat (l ++ m) = flat l ++ flat m := by
  simp [flat]

theorem flat_eq_nil_iff : flat l = [] ↔ l = [] := by
  cases l with
  | nil => simp
  | cons c l => simp

theorem Legible.nil : Legible point letters [] := ⟨List.nil_sublist letters, by simp⟩

/-- Runs of components follow one another as their letters do. -/
theorem Legible.append {letters' : List Char} {m : List (List Char × Char)}
    (hl : Legible point letters l) (hm : Legible point letters' m) :
    Legible point (letters ++ letters') (l ++ m) where
  order := by
    rw [List.map_append]
    exact hl.order.append hm.order
  numeral := by
    intro c hc
    rcases List.mem_append.1 hc with hc | hc
    · exact hl.numeral c hc
    · exact hm.numeral c hc

/-! ### Cutting a run -/

/-- Digits, and a point where it is allowed, are added to the numeral. -/
theorem components_numeral (numeral rest : List Char) {s : List Char}
    (h : ∀ x ∈ s, isDigit x = true ∨ x = '.' ∧ point = true) :
    components point letters numeral (s ++ rest) =
      components point letters (numeral ++ s) rest := by
  induction s generalizing numeral with
  | nil => simp
  | cons x s ih =>
    have hx : (isDigit x || (x == '.' && point)) = true := by
      rcases h x List.mem_cons_self with hx | ⟨rfl, rfl⟩
      · simp [hx]
      · simp
    rw [List.cons_append, components, if_pos hx,
      ih _ fun y hy => h y (List.mem_cons_of_mem x hy), List.append_assoc]
    rfl

/-- A letter that comes first among some letters in order is found among them all. -/
theorem dropWhile_of_sublist {x : Char} {rest : List Char} (h : (x :: rest).Sublist letters) :
    ∃ later, letters.dropWhile (· != x) = x :: later ∧ rest.Sublist later := by
  induction letters with
  | nil => cases h
  | cons y letters ih =>
    by_cases hxy : y = x
    · subst hxy
      refine ⟨letters, by simp, ?_⟩
      exact List.cons_sublist_cons.1 h
    · have htail : (x :: rest).Sublist letters := by
        cases h with
        | cons _ h => exact h
        | cons_cons => exact absurd rfl hxy
      obtain ⟨later, hlater, hrest⟩ := ih htail
      refine ⟨later, ?_, hrest⟩
      rw [List.dropWhile_cons_of_pos (by simpa using hxy), hlater]

/-- A run of components is cut into these components. -/
theorem components_flat (hl : Legible point letters l)
    (hletters : ∀ x ∈ letters, isDigit x = false ∧ x ≠ '.') :
    components point letters [] (flat l) = .ok l := by
  induction l generalizing letters with
  | nil => simp [components]
  | cons c l ih =>
    obtain ⟨numeral, letter⟩ := c
    obtain ⟨hne, hnumeral⟩ := hl.numeral (numeral, letter) List.mem_cons_self
    have horder : (letter :: l.map Prod.snd).Sublist letters := hl.order
    obtain ⟨later, hlater, hrest⟩ := dropWhile_of_sublist horder
    -- The letters that are left are those behind the one just found.
    have hmem : ∀ x ∈ later, x ∈ letters := by
      intro x hx
      have hsuffix : later <:+ letters :=
        (List.suffix_cons letter later).trans (hlater ▸ List.dropWhile_suffix _)
      exact hsuffix.subset hx
    obtain ⟨hdigit, hdot⟩ := hletters letter (horder.subset List.mem_cons_self)
    -- A point can only be in the numeral of an `S`.
    have hpoint : (numeral.contains '.' && letter != 'S') = false := by
      by_cases hcontains : '.' ∈ numeral
      · rcases hnumeral '.' hcontains with hx | ⟨-, -, rfl⟩
        · cases hx
        · simp
      · simp [hcontains]
    have hlegible : Legible point later l :=
      ⟨hrest, fun d hd => hl.numeral d (List.mem_cons_of_mem _ hd)⟩
    rw [flat_cons, components_numeral [] _ fun x hx => (hnumeral x hx).imp_right
      fun ⟨hx, hp, _⟩ => ⟨hx, hp⟩]
    have hletter : (isDigit letter || (letter == '.' && point)) = false := by
      simp [hdigit, hdot]
    rw [List.nil_append, components, hletter, if_neg Bool.false_ne_true, hlater]
    dsimp only
    rw [hpoint, ih hlegible fun x hx => hletters x (hmem x hx)]
    simp [hne]

/-! ### Both runs -/

/-- Nothing else is in a text of components. -/
theorem mem_flat {x : Char} (hl : Legible point letters l) (h : x ∈ flat l) :
    isDigit x = true ∨ x = '.' ∨ x ∈ letters := by
  obtain ⟨c, hc, hxc⟩ := List.mem_flatMap.1 h
  rcases List.mem_append.1 hxc with hnumeral | hletter
  · rcases (hl.numeral c hc).2 x hnumeral with hdigit | ⟨hdot, -⟩
    · exact .inl hdigit
    · exact .inr (.inl hdot)
  · rw [List.mem_singleton] at hletter
    exact .inr (.inr (hletter ▸ hl.order.subset (List.mem_map_of_mem hc)))

/-- What reading does with two runs that have been cut; without a `T` there is no second one. -/
theorem readComponents_eq {s dateText timeText : List Char}
    (hsplit : splitFirst 'T' s = some (dateText, timeText) ∧ timeText ≠ [] ∨
      splitFirst 'T' s = none ∧ dateText = s ∧ timeText = [])
    (hdate : components false ['Y', 'M', 'D'] [] dateText = .ok date)
    (htime : components true ['H', 'M', 'S'] [] timeText = .ok time)
    (hne : date ≠ [] ∨ time ≠ []) :
    readComponents s =
      date.foldlM addDateComponent ⟨0, .zero, false, false⟩ >>= fun l =>
        time.foldlM addTimeComponent l := by
  have hempty : (date.isEmpty && time.isEmpty) = false := by
    rw [Bool.and_eq_false_iff, List.isEmpty_eq_false_iff, List.isEmpty_eq_false_iff]
    exact hne
  unfold readComponents
  -- With a `T` or without one, the same two runs are left.
  rcases hsplit with ⟨hsplit, hT⟩ | ⟨hsplit, rfl, rfl⟩
  on_goal 1 => simp only [hsplit, Option.some.injEq, hT, Option.getD_some]
  on_goal 2 => simp only [hsplit, Option.getD_none, reduceCtorEq]
  all_goals
    simp only [hdate, htime, hempty, Bool.false_eq_true, if_false, bind, Except.bind, pure,
      Except.pure]
    cases date.foldlM addDateComponent ⟨0, .zero, false, false⟩ with
    | error e => rfl
    | ok l =>
      dsimp only
      cases time.foldlM addTimeComponent l <;> rfl

/-- Components with a `T` before those of the time, if there are any, are all added up. -/
theorem readComponents_flat (hdate : Legible false ['Y', 'M', 'D'] date)
    (htime : Legible true ['H', 'M', 'S'] time) (hne : date ≠ [] ∨ time ≠ []) :
    readComponents (flat date ++ if time.isEmpty then [] else 'T' :: flat time) =
      date.foldlM addDateComponent ⟨0, .zero, false, false⟩ >>= fun l =>
        time.foldlM addTimeComponent l := by
  -- Dates have no `T`, so that the first one stands between the runs.
  have hT : 'T' ∉ flat date := by
    intro h
    rcases mem_flat hdate h with hdigit | hdot | hletter
    · cases hdigit
    · cases hdot
    · revert hletter
      decide
  have hcutDate := components_flat hdate (by simp [isDigit])
  have hcutTime := components_flat htime (by simp [isDigit])
  cases time with
  | nil =>
    refine readComponents_eq (.inr ⟨?_, rfl, rfl⟩) ?_ hcutTime hne
    all_goals rw [List.isEmpty_nil, if_pos rfl, List.append_nil]
    · exact splitFirst_of_not_mem hT
    · exact hcutDate
  | cons c time =>
    have hflat : flat (c :: time) ≠ [] := by simp
    rw [List.isEmpty_cons, if_neg Bool.false_ne_true]
    exact readComponents_eq (.inl ⟨splitFirst_append hT _, hflat⟩) hcutDate hcutTime hne

end XPathData.DurationLiteral
