import XPathData.Proofs.Sequence.Asking

/-! # Sequences that were read to their end

  A reading that finds the end of a sequence whose parts are there or in buffers has read each
  of these buffers to its end. From then on a fresh copy finds all entries there: reading it
  leaves the store as it is.

  * `Cursor.Ended` — all buffers that a cursor reads were read to their ends
  * `Cursor.Ended.nexts` — reading such a cursor leaves the store as it is
  * `Cursor.next_walks` — the end of a sequence that is there ends its buffers
  * `Store.taken` — how many entries a buffer has taken from its source
-/

namespace XPathData

variable {content : Nat → List Entry} {n i : Nat} {s s' : Store}

namespace Cursor

/-! ### Nothing more to ask for -/

/-- All buffers that a cursor reads were read to their ends, and it reads nothing else that has
    to be asked for. -/
def Ended (s : Store) : Cursor → Prop
  | listed .. | range .. => True
  | producer .. => False
  | buffered i _ => ∃ b, s.buffers[i]? = some b ∧ b.source = none
  | append l r _ => l.Ended s ∧ r.Ended s
  | map _ input => input.Ended s
  | expand _ input _ => input.Ended s
  | select _ l r _ => l.Ended s ∧ r.Ended s

@[simp] theorem ended_restart {c : Cursor} : c.restart.Ended s ↔ c.Ended s := by
  induction c with
  | listed | range | producer | buffered => rfl
  | append l r onRight ihl ihr => simp only [restart, Ended, ihl, ihr]
  | map f input ih => simp only [restart, Ended, ih]
  | expand nodes input pending ih => simp only [restart, Ended, ih]
  | select op l r phase ihl ihr => simp only [restart, Ended, ihl, ihr]

theorem Ended.later {c : Cursor} (h : c.Ended s) (hgrows : s.Grows s') : c.Ended s' := by
  induction c with
  | listed | range => trivial
  | producer => exact h.elim
  | buffered i pos =>
    obtain ⟨b, hb, hsource⟩ := h
    obtain ⟨b', hb', hbb'⟩ := hgrows i b hb
    exact ⟨b', hb', hbb'.2 hsource ▸ hsource⟩
  | append l r onRight ihl ihr => exact ⟨ihl h.1, ihr h.2⟩
  | map f input ih => exact ih h
  | expand nodes input pending ih => exact ih h
  | select op l r phase ihl ihr => exact ⟨ihl h.1, ihr h.2⟩

variable {pull : Cursor → Store → Stepped}

theorem Ended.stepBuffered {pos : Nat} (h : (buffered i pos).Ended s) :
    (stepBuffered pull i pos s).2.2 = s ∧ (stepBuffered pull i pos s).2.1.Ended s := by
  obtain ⟨b, hb, hsource⟩ := h
  unfold Cursor.stepBuffered
  simp only [hb, hsource]
  split
  · exact ⟨rfl, b, hb, hsource⟩
  · split
    · exact ⟨rfl, b, hb, hsource⟩
    · cases b.error with
      | none => exact ⟨rfl, b, hb, hsource⟩
      | some e => exact ⟨rfl, b, hb, hsource⟩

/-- No source is asked, whatever it would do. -/
theorem Ended.stepWith {c : Cursor} (h : c.Ended s) :
    (c.stepWith pull s).2.2 = s ∧ (c.stepWith pull s).2.1.Ended s := by
  induction c with
  | listed items rest => cases rest <;> exact ⟨rfl, trivial⟩
  | range low high next => cases next <;> exact ⟨rfl, trivial⟩
  | producer => exact h.elim
  | buffered i pos => exact h.stepBuffered
  | append l r onRight ihl ihr =>
    cases onRight with
    | true =>
      have hr := ihr h.2
      exact ⟨hr.1, h.1, hr.2⟩
    | false =>
      have hl := ihl h.1
      have hr := ihr h.2
      rcases hstep : l.stepWith pull s with ⟨out, l', s'⟩
      rw [hstep] at hl
      obtain ⟨rfl, hl'⟩ := hl
      cases out with
      | yield | skip =>
        rw [Cursor.stepWith, hstep]
        exact ⟨rfl, hl', h.2⟩
      | done =>
        simp only [Cursor.stepWith, hstep]
        exact ⟨hr.1, hl', hr.2⟩
  | map f input ih =>
    have hin := ih h
    rcases hstep : input.stepWith pull s with ⟨out, input', s'⟩
    rw [hstep] at hin
    cases out <;> simp only [Cursor.stepWith, hstep] <;> exact hin
  | expand nodes input pending ih =>
    cases pending with
    | cons a pending => exact ⟨rfl, h⟩
    | nil =>
      have hin := ih h
      rcases hstep : input.stepWith pull s with ⟨out, input', s'⟩
      rw [hstep] at hin
      rcases out with (e | k | a) | _ | _
      case yield.ok.node =>
        simp only [Cursor.stepWith, hstep]
        cases nodes.values k <;> exact hin
      all_goals
        simp only [Cursor.stepWith, hstep]
        exact hin
  | select op l r phase ihl ihr =>
    cases phase with
    | gathering found =>
      have hr := ihr h.2
      rcases hstep : r.stepWith pull s with ⟨out, r', s'⟩
      rw [hstep] at hr
      cases out <;> simp only [Cursor.stepWith, hstep] <;> exact ⟨hr.1, h.1, hr.2⟩
    | choosing other seen =>
      have hl := ihl h.1
      rcases hstep : l.stepWith pull s with ⟨out, l', s'⟩
      rw [hstep] at hl
      cases out <;> simp only [Cursor.stepWith, hstep] <;> exact ⟨hl.1, hl.2, h.2⟩
    | draining =>
      have hl := ihl h.1
      rcases hstep : l.stepWith pull s with ⟨out, l', s'⟩
      rw [hstep] at hl
      cases out <;> simp only [Cursor.stepWith, hstep] <;> exact ⟨hl.1, hl.2, h.2⟩
    | closed => exact ⟨rfl, h⟩

theorem Ended.step {c : Cursor} (h : c.Ended s) :
    (c.step s).2.2 = s ∧ (c.step s).2.1.Ended s := by
  unfold Cursor.step
  cases s.buffers.size <;> exact h.stepWith

theorem Ended.nextWithin {c : Cursor} (h : c.Ended s) (steps : Nat) :
    (nextWithin steps c s).2.2 = s ∧ (nextWithin steps c s).2.1.Ended s := by
  induction steps generalizing c with
  | zero => exact ⟨rfl, h⟩
  | succ steps ih =>
    have hstep := h.step
    rcases hr : c.step s with ⟨out, c', s'⟩
    rw [hr] at hstep
    obtain ⟨rfl, hc'⟩ := hstep
    cases out with
    | yield | done =>
      rw [Cursor.nextWithin, hr]
      exact ⟨rfl, hc'⟩
    | skip =>
      simp only [Cursor.nextWithin, hr]
      exact ih hc'

/-- However often it is asked, nothing is read that was not read before. -/
theorem Ended.nexts {c : Cursor} (h : c.Ended s) (k : Nat) : (c.nexts k s).2 = s := by
  induction k generalizing c with
  | zero => rfl
  | succ k ih =>
    obtain ⟨hstore, hc⟩ := h.nextWithin (c.stepsLeft s + 1)
    rw [← next] at hstore hc
    rw [Cursor.nexts, hstore]
    exact ih hc

/-! ### The end of a sequence that is there -/

@[simp] theorem isMaterialized_restart (c : Cursor) :
    c.restart.isMaterialized = c.isMaterialized := by
  induction c with
  | append l r onRight ihl ihr => simp only [restart, isMaterialized, ihl, ihr]
  | _ => rfl

/-- A concatenation goes on to its right part behind the end of the left one. -/
def Walked (s : Store) : Cursor → Prop
  | append l r onRight => (onRight = true → l.Ended s) ∧ l.Walked s ∧ r.Walked s
  | _ => True

theorem walked_restart (c : Cursor) : c.restart.Walked s := by
  induction c with
  | append l r onRight ihl ihr => exact ⟨fun h => by simp at h, ihl, ihr⟩
  | _ => trivial

theorem Walked.later {c : Cursor} (h : c.Walked s) (hgrows : s.Grows s') : c.Walked s' := by
  induction c with
  | append l r onRight ihl ihr =>
    exact ⟨fun hright => (h.1 hright).later hgrows, ihl h.2.1, ihr h.2.2⟩
  | _ => trivial

/-- A reader that finds the end of a buffer has found that its source is at the end. -/
theorem stepBuffered_ended {pos : Nat} (hs : s.Holds content)
    (hadvances : ∀ c : Cursor, c.Sound s i → c.Advances content i s (pull c s))
    (hc : (buffered i pos).Sound s n) (hdone : (stepBuffered pull i pos s).1 = .done) :
    (stepBuffered pull i pos s).2.1.Ended (stepBuffered pull i pos s).2.2 := by
  obtain ⟨-, b, hb, hpos⟩ := hc
  unfold stepBuffered at hdone ⊢
  simp only [hb] at hdone ⊢
  cases hitem : b.items[pos]? with
  | some x => simp [hitem] at hdone
  | none =>
    simp only [hitem] at hdone ⊢
    by_cases hbehind : b.items.size < pos
    · -- Only a reader of a buffer at its end stands behind the items.
      simp only [hbehind, ↓reduceIte]
      exact ⟨b, hb, hpos.resolve_left (Nat.not_le.2 hbehind)⟩
    · simp only [hbehind, ↓reduceIte] at hdone ⊢
      cases hsource : b.source with
      | none =>
        cases herror : b.error with
        | none => exact ⟨b, hb, hsource⟩
        | some e => simp [herror] at hdone
      | some c =>
        have herror := ((hs i b hb).live hsource).1
        have hadv := hadvances c (hs.source_sound hb hsource)
        rcases hr : pull c s with ⟨out, c', s'⟩
        rw [hr] at hadv
        have hsame : s'.buffers[i]? = some b := (hadv.follows.above i (Nat.le_refl i)).trans hb
        simp only [herror, hsource, hr] at hdone ⊢
        rcases out with (e | x) | _ | _
        case done => exact ⟨_, Store.getElem?_setBuffer_self hsame, rfl⟩
        all_goals cases hdone

theorem stepBuffered_cursor (pull : Cursor → Store → Stepped) (i pos : Nat) (s : Store) :
    ∃ pos', (stepBuffered pull i pos s).2.1 = buffered i pos' := by
  unfold stepBuffered
  split
  · exact ⟨_, rfl⟩
  · split
    · exact ⟨_, rfl⟩
    · split
      · exact ⟨_, rfl⟩
      · split
        · exact ⟨_, rfl⟩
        · exact ⟨_, rfl⟩
        · split <;> exact ⟨_, rfl⟩

/-- A step keeps a sequence that is there walked, and the end of it has ended its buffers. -/
theorem stepWith_walks {c : Cursor}
    (hadvances : ∀ i < n, ∀ s, s.Holds content → ∀ c : Cursor, c.Sound s i →
      c.Advances content i s (pull c s))
    (hs : s.Holds content) (hc : c.Sound s n) (hthere : c.isMaterialized = true)
    (hwalked : c.Walked s) :
    (c.stepWith pull s).2.1.Walked (c.stepWith pull s).2.2 ∧
      ((c.stepWith pull s).1 = .done →
        (c.stepWith pull s).2.1.Ended (c.stepWith pull s).2.2) := by
  induction c generalizing s with
  | listed items rest => cases rest <;> exact ⟨trivial, fun _ => trivial⟩
  | range low high next => cases next <;> exact ⟨trivial, fun _ => trivial⟩
  | buffered i pos =>
    obtain ⟨pos', hcursor⟩ := stepBuffered_cursor pull i pos s
    refine ⟨?_, stepBuffered_ended hs (hadvances i hc.1 s hs) hc⟩
    rw [stepWith_buffered, hcursor]
    trivial
  | append l r onRight ihl ihr =>
    simp only [isMaterialized, Bool.and_eq_true] at hthere
    have hladv := stepWith_advances hadvances hs hc.1
    have hl := ihl hs hc.1 hthere.1 hwalked.2.1
    cases onRight with
    | true =>
      have hradv := stepWith_advances hadvances hs hc.2
      have hr := ihr hs hc.2 hthere.2 hwalked.2.2
      rcases hstep : r.stepWith pull s with ⟨out, r', s'⟩
      rw [hstep] at hr hradv
      simp only [stepWith, hstep]
      have hgrows := hradv.follows.grows
      have hleft := (hwalked.1 rfl).later hgrows
      exact ⟨⟨fun _ => hleft, hwalked.2.1.later hgrows, hr.1⟩, fun hdone => ⟨hleft, hr.2 hdone⟩⟩
    | false =>
      rcases hstep : l.stepWith pull s with ⟨out, l', s'⟩
      rw [hstep] at hl hladv
      have hgrows := hladv.follows.grows
      cases out with
      | yield | skip =>
        simp only [stepWith, hstep]
        exact ⟨⟨fun h => (by cases h), hl.1, hwalked.2.2.later hgrows⟩, fun h => (by cases h)⟩
      | done =>
        have hr := hc.2.later hgrows
        have hradv := stepWith_advances hadvances hladv.follows.holds hr
        have hwalks := ihr hladv.follows.holds hr hthere.2 (hwalked.2.2.later hgrows)
        rcases hstep' : r.stepWith pull s' with ⟨out', r', s''⟩
        rw [hstep'] at hwalks hradv
        simp only [stepWith, hstep, hstep']
        have hleft : l'.Ended s'' := (hl.2 rfl).later hradv.follows.grows
        exact ⟨⟨fun _ => hleft, hl.1.later hradv.follows.grows, hwalks.1⟩,
          fun hdone => ⟨hleft, hwalks.2 hdone⟩⟩
  | producer | map | expand | select => cases hthere

theorem step_walks {c : Cursor} (hs : s.Holds content) (hc : c.Sound s s.buffers.size)
    (hthere : c.isMaterialized = true) (hwalked : c.Walked s) :
    (c.step s).2.1.Walked (c.step s).2.2 ∧
      ((c.step s).1 = .done → (c.step s).2.1.Ended (c.step s).2.2) := by
  unfold step
  cases hsize : s.buffers.size with
  | zero =>
    rw [hsize] at hc
    exact stepWith_walks (fun i hi => absurd hi (Nat.not_lt_zero i)) hs hc hthere hwalked
  | succ depth =>
    refine stepWith_walks (fun i hi s hs c hc => ?_) hs hc hthere hwalked
    exact stepAt_advances hs hc (by omega)

/-- A reading of a sequence that is there keeps it walked, and one that finds the end has ended
    its buffers. -/
theorem next_walks {c : Cursor} (hs : s.Holds content) (hc : c.Sound s s.buffers.size)
    (hthere : c.isMaterialized = true) (hwalked : c.Walked s) :
    (c.next s).2.1.Walked (c.next s).2.2 ∧
      ((c.next s).1 = none → (c.next s).2.1.Ended (c.next s).2.2) := by
  unfold next
  generalize hsteps : c.stepsLeft s + 1 = steps
  have hroom : c.stepsLeft s < steps := by omega
  clear hsteps
  induction steps generalizing c s with
  | zero => omega
  | succ steps ih =>
    have hadv := step_advances hs hc
    have hwalks := step_walks hs hc hthere hwalked
    rcases hr : c.step s with ⟨out, c', s'⟩
    rw [hr] at hadv hwalks
    cases out with
    | yield e =>
      simp only [nextWithin, hr]
      exact ⟨hwalks.1, fun h => (by cases h)⟩
    | done =>
      simp only [nextWithin, hr]
      exact ⟨hwalks.1, fun _ => hwalks.2 rfl⟩
    | skip =>
      have hfewer := hadv.fewer (by simp)
      have hsound : c'.Sound s' s'.buffers.size := hadv.follows.size ▸ hadv.sound
      have hthere' : c'.isMaterialized = true := by
        rw [← isMaterialized_restart, hadv.restart, isMaterialized_restart, hthere]
      simp only [nextWithin, hr]
      exact ih hadv.follows.holds hsound hthere' hwalks.1 (by simp only at hfewer; omega)

end Cursor

/-! ### What a buffer has taken -/

/-- How many entries a buffer has taken from its source: its items, and its failure. -/
def Store.taken (i : Nat) (s : Store) : Nat :=
  ((s.buffers[i]?).map fun b => b.items.size + b.error.toList.length).getD 0

namespace Cursor

variable {pull : Cursor → Store → Stepped}

/-- A step of a reader takes at most one entry, and none if it yields none. -/
theorem stepBuffered_taken (pull : Cursor → Store → Stepped) {pos : Nat} (hs : s.Holds content)
    (hadvances : ∀ c : Cursor, c.Sound s i → c.Advances content i s (pull c s))
    (hc : (buffered i pos).Sound s n) :
    (stepBuffered pull i pos s).2.2.taken i ≤ s.taken i + 1 ∧
      ((stepBuffered pull i pos s).1 = .skip →
        (stepBuffered pull i pos s).2.2.taken i ≤ s.taken i) := by
  obtain ⟨-, b, hb, -⟩ := hc
  unfold stepBuffered
  simp only [hb]
  split
  · exact ⟨Nat.le_succ _, fun _ => Nat.le_refl _⟩
  · split
    · exact ⟨Nat.le_succ _, fun _ => Nat.le_refl _⟩
    · split
      · exact ⟨Nat.le_succ _, fun _ => Nat.le_refl _⟩
      · exact ⟨Nat.le_succ _, fun _ => Nat.le_refl _⟩
      · next c herror hsource =>
        have hadv := hadvances c (hs.source_sound hb hsource)
        rcases hr : pull c s with ⟨out, c', s'⟩
        rw [hr] at hadv
        have hsame : s'.buffers[i]? = some b := (hadv.follows.above i (Nat.le_refl i)).trans hb
        have hwritten (b' : Buffer) :
            (s'.setBuffer i b').taken i = b'.items.size + b'.error.toList.length := by
          simp only [Store.taken, Store.getElem?_setBuffer_self hsame, Option.map_some,
            Option.getD_some]
        have hbefore : s.taken i = b.items.size := by
          simp [Store.taken, hb, herror]
        rcases out with (e | x) | _ | _ <;> simp [hwritten, hbefore, herror]

/-- A reading takes at most one entry. -/
theorem next_taken {pos : Nat} (hs : s.Holds content)
    (hc : (buffered i pos).Sound s s.buffers.size) :
    ((buffered i pos).next s).2.2.taken i ≤ s.taken i + 1 ∧
      ∃ pos', ((buffered i pos).next s).2.1 = buffered i pos' := by
  unfold next
  generalize (buffered i pos).stepsLeft s + 1 = steps
  induction steps generalizing pos s with
  | zero => exact ⟨Nat.le_succ _, pos, rfl⟩
  | succ steps ih =>
    have hadv := step_advances hs hc
    have hi : i < s.buffers.size := hc.1
    obtain ⟨depth, hdepth⟩ : ∃ depth, s.buffers.size = depth + 1 := ⟨s.buffers.size - 1, by omega⟩
    have hstep : (buffered i pos).step s = stepBuffered (stepAt depth) i pos s := by
      rw [step, hdepth]
      rfl
    have htaken := stepBuffered_taken (stepAt depth) hs
      (fun c hc => stepAt_advances hs hc (by omega)) hc
    obtain ⟨pos', hcursor⟩ := stepBuffered_cursor (stepAt depth) i pos s
    rw [← hstep] at htaken hcursor
    rcases hr : (buffered i pos).step s with ⟨out, c', s'⟩
    rw [hr] at hadv htaken hcursor
    simp only at hcursor htaken
    subst hcursor
    cases out with
    | yield | done =>
      simp only [nextWithin, hr]
      exact ⟨htaken.1, pos', rfl⟩
    | skip =>
      -- Steps that yield nothing have taken nothing.
      have hsound : (buffered i pos').Sound s' s'.buffers.size := hadv.follows.size ▸ hadv.sound
      obtain ⟨hmore, hreader⟩ := ih (s := s') hadv.follows.holds hsound
      have hskip := htaken.2 rfl
      simp only [nextWithin, hr]
      exact ⟨by omega, hreader⟩

/-- A buffer has taken at most as many entries as its reader was asked for. -/
theorem nexts_taken {pos : Nat} (k : Nat) (hs : s.Holds content)
    (hc : (buffered i pos).Sound s s.buffers.size) :
    ((buffered i pos).nexts k s).2.taken i ≤ s.taken i + k := by
  induction k generalizing pos s with
  | zero => exact Nat.le_refl _
  | succ k ih =>
    have hread := next_reads hs hc
    obtain ⟨htaken, pos', hcursor⟩ := next_taken hs hc
    have hsound := hread.sound
    rw [hcursor] at hsound
    have hmore := ih hread.follows.holds hsound
    rw [nexts, hcursor]
    omega

end Cursor

end XPathData
