import XPathData.Proofs.Sequence.StepsLeft

/-! # Steps go on in what is left

  A step of a cursor takes at most the next entry from what the cursor has left, and
  leaves what every other cursor has left as it is. There is one lemma for each kind of
  cursor. A reader of a buffer is the only one that writes: it keeps the buffer holding its
  content and touches nothing above.

  * `Cursor.stepAt_advances` — what one step does
  * `Cursor.next_reads` — reading yields the first entry that is left, or none at the end
-/

namespace XPathData

variable {content : Nat → List Entry} {n : Nat} {s s' s'' : Store}

/-! ### Writing a buffer -/

namespace Store

variable {i : Nat} {b b' : Buffer}

theorem getElem?_setBuffer_self (hb : s.buffers[i]? = some b) :
    (s.setBuffer i b').buffers[i]? = some b' :=
  Array.getElem?_setIfInBounds_self_of_lt (Array.getElem?_eq_some_iff.1 hb).1

theorem getElem?_setBuffer_ne {j : Nat} (hj : j ≠ i) :
    (s.setBuffer i b').buffers[j]? = s.buffers[j]? :=
  Array.getElem?_setIfInBounds_ne (Ne.symm hj)

theorem setBuffer_grows (hb : s.buffers[i]? = some b) (hgrows : b.Grows b') :
    s.Grows (s.setBuffer i b') := by
  intro j c hc
  by_cases hj : j = i
  · subst hj
    rw [hb] at hc
    cases hc
    exact ⟨b', getElem?_setBuffer_self hb, hgrows⟩
  · exact ⟨c, (getElem?_setBuffer_ne hj).trans hc, .refl c⟩

theorem setBuffer_holds (hs : s.Holds content) (hb : s.buffers[i]? = some b)
    (hgrows : b.Grows b') (hb' : b'.Holds content s i) : (s.setBuffer i b').Holds content := by
  intro j c hc
  have hold : c.Holds content s j := by
    by_cases hj : j = i
    · subst hj
      rw [getElem?_setBuffer_self hb] at hc
      cases hc
      exact hb'
    · exact hs j c ((getElem?_setBuffer_ne hj).symm.trans hc)
  exact hold.later (setBuffer_grows hb hgrows)

/-- Below the buffer nothing is written, so the cursors there have no more steps left. -/
theorem setBuffer_stepsLeft_le (hs : s.Holds content) (hb : s.buffers[i]? = some b)
    (hgrows : b.Grows b') (hb' : b'.Holds content s i) {c : Cursor} (hc : c.Sound s i) :
    c.stepsLeft (s.setBuffer i b') ≤ c.stepsLeft s := by
  have hholds := setBuffer_holds hs hb hgrows hb'
  refine Cursor.stepsLeft_le_of_readers hs hholds (setBuffer_grows hb hgrows)
    (fun j hj pos hread ih => ?_) (Nat.le_refl i) hc
  obtain ⟨-, d, hd, hpos⟩ := hread
  exact Cursor.stepsLeft_reader_le hs hholds hd
    ((getElem?_setBuffer_ne (Nat.ne_of_lt hj)).trans hd) hpos ih

theorem setBuffer_ahead_le (hs : s.Holds content) (hb : s.buffers[i]? = some b)
    (hgrows : b.Grows b') (hb' : b'.Holds content s i) :
    b'.ahead (s.setBuffer i b') ≤ b'.ahead s := by
  unfold Buffer.ahead
  cases hsrc : b'.source with
  | none => simp
  | some src =>
    have hle := setBuffer_stepsLeft_le hs hb hgrows hb' (hb'.source_sound hsrc)
    simp only [Option.map_some, Option.getD_some]
    omega

end Store

/-! ### Stores behind a step -/

/-- A store behind steps of cursors below `n`. -/
structure Store.Follows (content : Nat → List Entry) (n : Nat) (s s' : Store) : Prop where
  /-- The buffers hold the same contents. -/
  holds : s'.Holds content
  /-- No buffer was added. -/
  size : s'.buffers.size = s.buffers.size
  /-- Nothing that was read is lost. -/
  grows : s.Grows s'
  /-- No cursor has more steps left. -/
  settles : s.Settles s'
  /-- Buffers from `n` on are as they were. -/
  above : ∀ i : Nat, n ≤ i → s'.buffers[i]? = s.buffers[i]?

namespace Store.Follows

theorem of_buffers_eq (hs : s.Holds content) (h : s'.buffers = s.buffers) :
    s.Follows content n s' := by
  have hgrows : s.Grows s' := .of_buffers_eq h
  have hs' : s'.Holds content := fun i b hb => (hs i b (h ▸ hb)).later hgrows
  refine ⟨hs', by rw [h], hgrows, fun m c hc => ?_, fun i _ => by rw [h]⟩
  refine Cursor.stepsLeft_le_of_readers hs hs' hgrows (fun i hi pos hread hbelow => ?_)
    (Nat.le_refl m) hc
  obtain ⟨-, b, hb, hpos⟩ := hread
  exact Cursor.stepsLeft_reader_le hs hs' hb (h ▸ hb) hpos hbelow

theorem refl (hs : s.Holds content) : s.Follows content n s := of_buffers_eq hs rfl

theorem trans (h : s.Follows content n s') (h' : s'.Follows content n s'') :
    s.Follows content n s'' where
  holds := h'.holds
  size := h'.size.trans h.size
  grows := h.grows.trans h'.grows
  settles := h.settles.trans h.grows h'.settles
  above i hi := (h'.above i hi).trans (h.above i hi)

/-- Behind the steps of the source of a buffer the buffer is written. -/
theorem setBuffer {i : Nat} {b b' : Buffer} (h : s.Follows content i s')
    (hs : s.Holds content) (hb : s.buffers[i]? = some b) (hlive : b.source ≠ none)
    (hgrows : b.Grows b') (hb' : b'.Holds content s' i)
    (hahead : b'.items.size + b'.ahead s' ≤ b.items.size + b.ahead s) (hi : i < n) :
    s.Follows content n (s'.setBuffer i b') := by
  have hsame : s'.buffers[i]? = some b := (h.above i (Nat.le_refl i)).trans hb
  have hgrows' := setBuffer_grows hsame hgrows
  have hholds := setBuffer_holds h.holds hsame hgrows hb'
  have hsettles : s.Settles (s'.setBuffer i b') := by
    intro m c hc
    refine Cursor.stepsLeft_le_of_readers hs hholds (h.grows.trans hgrows')
      (fun j hj pos hread ih => ?_) (Nat.le_refl m) hc
    rcases Nat.lt_trichotomy j i with hji | rfl | hij
    · have hread' : (Cursor.buffered j pos).Sound s i := by
        obtain ⟨-, hstands⟩ := hread
        exact ⟨hji, hstands⟩
      exact Nat.le_trans
        (setBuffer_stepsLeft_le h.holds hsame hgrows hb' (hread'.later h.grows))
        (h.settles i _ hread')
    · obtain ⟨-, d, hd, hpos⟩ := hread
      rw [hb] at hd
      cases hd
      have hpos' : pos ≤ b.items.size := hpos.resolve_right hlive
      have hahead' := setBuffer_ahead_le h.holds hsame hgrows hb'
      rw [Cursor.stepsLeft_buffered hs hb hpos,
        Cursor.stepsLeft_buffered hholds (getElem?_setBuffer_self hsame) (hgrows.stands hpos),
        if_neg (Nat.not_lt.2 hpos')]
      split <;> omega
    · obtain ⟨-, d, hd, hpos⟩ := hread
      have hd' : (s'.setBuffer i b').buffers[j]? = some d :=
        ((getElem?_setBuffer_ne (Nat.ne_of_gt hij)).trans (h.above j (Nat.le_of_lt hij))).trans hd
      exact Cursor.stepsLeft_reader_le hs hholds hd hd' hpos ih
  refine ⟨hholds, ?_, h.grows.trans hgrows', hsettles, fun j hj => ?_⟩
  · rw [Store.setBuffer, Array.size_setIfInBounds, h.size]
  · exact (getElem?_setBuffer_ne (by omega)).trans (h.above j (by omega))

end Store.Follows

/-! ### What a step does -/

/-- What a step brings where `before` was left and `after` is left behind it. -/
def Step.Brings (before after : List Entry) : Step → Prop
  | .yield e => before = e :: after
  | .skip => before = after
  | .done => before = [] ∧ after = []

namespace Cursor

/-- A step of a cursor below `n` takes what it brings from what the cursor has left. -/
structure Advances (content : Nat → List Entry) (n : Nat) (c : Cursor) (s : Store)
    (r : Stepped) : Prop where
  /-- The store behind the step. -/
  follows : s.Follows content n r.2.2
  /-- The cursor behind the step stands rightly. -/
  sound : r.2.1.Sound r.2.2 n
  /-- It reads the same sequence. -/
  restart : r.2.1.restart = c.restart
  brings : r.1.Brings (c.remaining content) (r.2.1.remaining content)
  /-- Before the end each step leaves fewer to do. -/
  fewer : r.1 ≠ .done → r.2.1.stepsLeft r.2.2 < c.stepsLeft s

variable {pull : Cursor → Store → Stepped}

/-! ### Items, integers, producers -/

theorem listed_advances (hs : s.Holds content) (items rest : List Item) :
    (listed items rest).Advances content n s ((listed items rest).stepWith pull s) := by
  cases rest with
  | nil => exact ⟨.refl hs, trivial, rfl, ⟨rfl, rfl⟩, fun h => absurd rfl h⟩
  | cons x rest =>
    refine ⟨.refl hs, trivial, rfl, rfl, fun _ => ?_⟩
    simp only [stepWith]
    rw [stepsLeft_eq hs (c := listed items (x :: rest)) (n := 0) trivial,
      stepsLeft_eq hs (c := listed items rest) (n := 0) trivial]
    exact Nat.lt_succ_self _

theorem range_advances (hs : s.Holds content) {low high : Signed64} {next : Option Signed64}
    (hc : (range low high next).Sound s n) :
    (range low high next).Advances content n s ((range low high next).stepWith pull s) := by
  cases next with
  | none => exact ⟨.refl hs, hc, rfl, ⟨rfl, rfl⟩, fun h => absurd rfl h⟩
  | some k =>
    have hk : k.val ≤ high.val := hc k rfl
    simp only [stepWith]
    by_cases hlt : k.val < high.val
    · obtain ⟨m, hm⟩ := Signed64.exists_succ hlt
      rw [if_pos hlt, Bounded.ofInt?_eq_some_iff.2 hm]
      have hsound : (range low high (some m)).Sound s n := by
        rintro i ⟨⟩
        omega
      refine ⟨.refl hs, hsound, rfl, ?_, fun _ => ?_⟩
      · simp only [Step.Brings, remaining, Option.map_some, Option.getD_some,
          Signed64.upTo_eq_cons hlt hm, List.map_cons]
      · rw [stepsLeft_eq hs hc, stepsLeft_eq hs hsound]
        simp only [stepsLeftWith, Option.map_some, Option.getD_some]
        omega
    · have hend : k = high := Bounded.ext_val (by omega)
      rw [if_neg hlt]
      refine ⟨.refl hs, by rintro i ⟨⟩, rfl, ?_, fun _ => ?_⟩
      · subst hend
        simp [Step.Brings, remaining, Signed64.upTo_self]
      · rw [stepsLeft_eq hs hc,
          stepsLeft_eq hs (c := range low high none) (n := 0) (by rintro i ⟨⟩)]
        simp only [stepsLeftWith, Option.map_some, Option.getD_some, Option.map_none,
          Option.getD_none]
        omega

theorem producer_advances (hs : s.Holds content) (name : String) (entries : List Entry)
    (rest : Option (List Entry)) :
    (producer name entries rest).Advances content n s
      ((producer name entries rest).stepWith pull s) := by
  -- Only the tallies change.
  have hbuffers : ((if rest.isNone then s.noteRun name else s).notePull name).buffers =
      s.buffers := by
    split <;> rfl
  cases hrest : rest.getD entries with
  | nil =>
    simp only [stepWith, hrest]
    exact ⟨.of_buffers_eq hs hbuffers, trivial, rfl, ⟨hrest, rfl⟩, fun h => absurd rfl h⟩
  | cons e l =>
    have hfollows : s.Follows content n
        (((if rest.isNone then s.noteRun name else s).notePull name).noteEntry name) :=
      .of_buffers_eq hs hbuffers
    simp only [stepWith, hrest]
    refine ⟨hfollows, trivial, rfl, hrest, fun _ => ?_⟩
    rw [stepsLeft_eq hs (c := producer name entries rest) (n := 0) trivial,
      stepsLeft_eq hfollows.holds (c := producer name entries (some l)) (n := 0) trivial]
    simp only [stepsLeftWith, hrest, Option.getD_some, List.length_cons]
    exact Nat.lt_succ_self _

/-! ### Readers of buffers -/

/-- Items that were read stay where they are in the content. -/
theorem drop_content_of_read (hs : s.Holds content) {i pos : Nat} {b : Buffer} {x : Item}
    (hb : s.buffers[i]? = some b) (hx : b.items[pos]? = some x) :
    (content i).drop pos = .ok x :: (content i).drop (pos + 1) := by
  have hitem : (b.items.toList.map (Except.ok : Item → Entry))[pos]? = some (.ok x) := by
    simp [hx]
  obtain ⟨l, hl⟩ := (hs i b hb).begins_with_items
  have hcontent : (content i)[pos]? = some (.ok x) := by
    rw [← hl, List.getElem?_append_left (List.getElem?_eq_some_iff.1 hitem).1, hitem]
  obtain ⟨hlt, hget⟩ := List.getElem?_eq_some_iff.1 hcontent
  rw [List.drop_eq_getElem_cons hlt, hget]

/-- A reader behind the items of a live buffer has asked the source, and the buffer is written. -/
theorem reader_advances {i pos : Nat} {b b' : Buffer} {out : Step} (hs : s.Holds content)
    (hi : i < n) (hb : s.buffers[i]? = some b) (hlive : b.source ≠ none)
    (hfollows : s.Follows content i s') (hgrows : b.Grows b') (hholds : b'.Holds content s' i)
    (hpos : pos ≤ b'.items.size ∨ b'.source = none)
    (hbrings : out.Brings ((content i).drop b.items.size) ((content i).drop pos))
    (hahead : b'.items.size + b'.ahead s' ≤ b.items.size + b.ahead s)
    (hfewer : out ≠ .done → b'.items.size < pos ∧ 0 < b.ahead s ∨
      b'.items.size - pos + b'.ahead s' < b.ahead s) :
    (buffered i b.items.size).Advances content n s (out, buffered i pos, s'.setBuffer i b') := by
  have hsame : s'.buffers[i]? = some b := (hfollows.above i (Nat.le_refl i)).trans hb
  have hwritten := hfollows.setBuffer hs hb hlive hgrows hholds hahead hi
  have hat : (s'.setBuffer i b').buffers[i]? = some b' := Store.getElem?_setBuffer_self hsame
  refine ⟨hwritten, ⟨hi, b', hat, hpos⟩, rfl, hbrings, fun hout => ?_⟩
  have hle := Store.setBuffer_ahead_le hfollows.holds hsame hgrows hholds
  have hless := hfewer hout
  rw [stepsLeft_buffered hs hb (.inl (Nat.le_refl _)), if_neg (Nat.lt_irrefl _),
    stepsLeft_buffered hwritten.holds hat hpos]
  split <;> omega

/-- A reader behind the items of a live buffer goes on as the source does, up to a failure. -/
theorem live_advances {i : Nat} {b : Buffer} {c : Cursor} (hs : s.Holds content)
    (hpull : c.Advances content i s (pull c s)) (hi : i < n) (hb : s.buffers[i]? = some b)
    (hc : b.source = some c) :
    (buffered i b.items.size).Advances content n s (stepBuffered pull i b.items.size s) := by
  obtain ⟨herror, -, hcontent⟩ := (hs i b hb).live hc
  obtain ⟨items, source, error⟩ := b
  simp only at hc herror hcontent
  subst hc herror
  have hlive : (some c : Option Cursor) ≠ none := by simp
  have hend : items[items.size]? = none := Array.getElem?_eq_none (Nat.le_refl _)
  have hleft : (content i).drop items.size = upToError (c.remaining content) := by
    rw [hcontent, List.drop_left' (by simp)]
  simp only [stepBuffered, hb, hend, Nat.lt_irrefl, ↓reduceIte]
  rcases hr : pull c s with ⟨out, c', s'⟩
  rw [hr] at hpull
  obtain ⟨hfollows, hsound, -, hbrings, hfewer⟩ := hpull
  simp only at hfollows hsound hbrings hfewer
  -- The content behind the items is what the source brings, cut off behind a failure.
  match out with
  | .yield (.ok x) =>
    have hfewer := hfewer (by simp)
    have hleft' : (content i).drop items.size = .ok x :: upToError (c'.remaining content) := by
      have hrest : c.remaining content = .ok x :: c'.remaining content := hbrings
      rw [hleft, hrest]
      rfl
    have hholds : Buffer.Holds content s' i ⟨items.push x, some c', none⟩ := by
      refine ⟨rfl, hsound, ?_⟩
      rw [hcontent, ← hleft, hleft']
      simp
    refine reader_advances hs hi hb hlive hfollows ⟨by simp, fun h => absurd h hlive⟩ hholds
      (.inl (by simp)) ?_ ?_ fun _ => .inr ?_
    · simp only [Step.Brings]
      rw [← List.drop_drop, hleft']
      rfl
    · simp only [Buffer.ahead_live, Array.size_push]
      omega
    · simp only [Buffer.ahead_live, Array.size_push]
      omega
  | .yield (.error e) =>
    have hfewer := hfewer (by simp)
    have hleft' : (content i).drop items.size = [.error e] := by
      have hrest : c.remaining content = .error e :: c'.remaining content := hbrings
      rw [hleft, hrest]
      rfl
    have hholds : Buffer.Holds content s' i ⟨items, none, some e⟩ := by
      show content i = _
      rw [hcontent, ← hleft, hleft']
      rfl
    refine reader_advances hs hi hb hlive hfollows ⟨Nat.le_refl _, fun h => absurd h hlive⟩ hholds
      (.inr rfl) ?_ ?_ fun _ => .inl ⟨Nat.lt_succ_self _, ?_⟩
    · simp only [Step.Brings]
      rw [← List.drop_drop, hleft']
      rfl
    · simp only [Buffer.ahead_live, Buffer.ahead_failed]
      omega
    · rw [Buffer.ahead_live]
      omega
  | .skip =>
    have hfewer := hfewer (by simp)
    have hsame : c.remaining content = c'.remaining content := hbrings
    have hholds : Buffer.Holds content s' i ⟨items, some c', none⟩ := by
      refine ⟨rfl, hsound, ?_⟩
      rw [hcontent, hsame]
    refine reader_advances hs hi hb hlive hfollows ⟨Nat.le_refl _, fun h => absurd h hlive⟩ hholds
      (.inl (Nat.le_refl _)) rfl ?_ fun _ => .inr ?_
    · simp only [Buffer.ahead_live]
      omega
    · simp only [Buffer.ahead_live]
      omega
  | .done =>
    have hnone : c.remaining content = [] := hbrings.1
    have hleft' : (content i).drop items.size = [] := by
      rw [hleft, hnone]
      rfl
    have hholds : Buffer.Holds content s' i ⟨items, none, none⟩ := by
      show content i = _
      rw [hcontent, hnone]
      rfl
    refine reader_advances hs hi hb hlive hfollows ⟨Nat.le_refl _, fun h => absurd h hlive⟩ hholds
      (.inr rfl) ⟨hleft', hleft'⟩ ?_ fun h => absurd rfl h
    rw [Buffer.ahead_ended]
    exact Nat.add_le_add_left (Nat.zero_le _) _

/-- A step of a reader of a buffer, if the steps of sources go on. -/
theorem stepBuffered_advances {i pos : Nat} (hs : s.Holds content)
    (hpull : ∀ c : Cursor, c.Sound s i → c.Advances content i s (pull c s))
    (hc : (buffered i pos).Sound s n) :
    (buffered i pos).Advances content n s (stepBuffered pull i pos s) := by
  obtain ⟨hi, b, hb, hpos⟩ := hc
  have hbefore := stepsLeft_buffered hs hb hpos
  cases hx : b.items[pos]? with
  | some x =>
    have hlt : pos < b.items.size := (Array.getElem?_eq_some_iff.1 hx).1
    simp only [stepBuffered, hb, hx]
    refine ⟨.refl hs, ⟨hi, b, hb, .inl hlt⟩, rfl, drop_content_of_read hs hb hx, fun _ => ?_⟩
    rw [hbefore, stepsLeft_buffered hs hb (.inl hlt), if_neg (by omega), if_neg (by omega)]
    omega
  | none =>
    have hle : b.items.size ≤ pos := Array.getElem?_eq_none_iff.1 hx
    by_cases hbehind : b.items.size < pos
    · -- Behind the failure nothing is left, as a content has nothing behind it.
      have hended : b.source = none := hpos.resolve_left (by omega)
      have hnone : (content i).drop pos = [] := by
        rw [(hs i b hb).ended hended, List.drop_eq_nil_iff]
        have : b.error.toList.length ≤ 1 := by cases b.error <;> simp
        simp
        omega
      simp only [stepBuffered, hb, hx, hbehind, ↓reduceIte]
      exact ⟨.refl hs, ⟨hi, b, hb, hpos⟩, rfl, ⟨hnone, hnone⟩, fun h => absurd rfl h⟩
    · have hat : pos = b.items.size := by omega
      subst hat
      cases hsrc : b.source with
      | some c => exact live_advances hs (hpull c (hs.source_sound hb hsrc)) hi hb hsrc
      | none =>
        have hleft : (content i).drop b.items.size = b.error.toList.map .error := by
          rw [(hs i b hb).ended hsrc, List.drop_left' (by simp)]
        cases he : b.error with
        | some e =>
          simp only [stepBuffered, hb, hx, Nat.lt_irrefl, ↓reduceIte, he]
          refine ⟨.refl hs, ⟨hi, b, hb, .inr hsrc⟩, rfl, ?_, fun _ => ?_⟩
          · simp only [Step.Brings, remaining]
            rw [← List.drop_drop, hleft, he]
            rfl
          · rw [hbefore, stepsLeft_buffered hs hb (.inr hsrc), if_neg (Nat.lt_irrefl _),
              if_pos (Nat.lt_succ_self _)]
            simp [Buffer.ahead, he]
        | none =>
          have hnone : (content i).drop b.items.size = [] := by
            rw [hleft, he]
            rfl
          simp only [stepBuffered, hb, hx, Nat.lt_irrefl, ↓reduceIte, he, hsrc]
          exact ⟨.refl hs, ⟨hi, b, hb, hpos⟩, rfl, ⟨hnone, hnone⟩, fun h => absurd rfl h⟩

/-! ### One sequence after another -/

theorem append_left_advances {l r : Cursor} (hs : s.Holds content) (hls : l.Sound s n)
    (hrs : r.Sound s n) (hl : l.Advances content n s (l.stepWith pull s))
    (hr : ∀ s', s'.Holds content → r.Sound s' n →
      r.Advances content n s' (r.stepWith pull s')) :
    (append l r false).Advances content n s ((append l r false).stepWith pull s) := by
  rcases hstep : l.stepWith pull s with ⟨out, l', s'⟩
  rw [hstep] at hl
  obtain ⟨hfollows, hsound, hrestart, hbrings, hfewer⟩ := hl
  simp only at hfollows hsound hrestart hbrings hfewer
  have hrs' := hrs.later hfollows.grows
  have hright : r.stepsLeft s' ≤ r.stepsLeft s := hfollows.settles n r hrs
  have hbefore := stepsLeft_append false hs hls hrs
  have hafter := stepsLeft_append false hfollows.holds hsound hrs'
  match out with
  | .yield e =>
    have hfewer := hfewer (by simp)
    simp only [stepWith, hstep]
    refine ⟨hfollows, ⟨hsound, hrs'⟩, ?_, ?_, fun _ => ?_⟩
    · simp only [Cursor.restart, hrestart]
    · have hleft : l.remaining content = e :: l'.remaining content := hbrings
      simp only [Step.Brings, remaining, hleft]
      rfl
    · rw [hbefore, hafter]
      exact Nat.add_lt_add_of_lt_of_le hfewer hright
  | .skip =>
    have hfewer := hfewer (by simp)
    simp only [stepWith, hstep]
    refine ⟨hfollows, ⟨hsound, hrs'⟩, ?_, ?_, fun _ => ?_⟩
    · simp only [Cursor.restart, hrestart]
    · have hleft : l.remaining content = l'.remaining content := hbrings
      simp only [Step.Brings, remaining, hleft]
    · rw [hbefore, hafter]
      exact Nat.add_lt_add_of_lt_of_le hfewer hright
  | .done =>
    have hr := hr s' hfollows.holds hrs'
    obtain ⟨hfollows', hsound', hrestart', hbrings', hfewer'⟩ := hr
    have hls' := hsound.later hfollows'.grows
    simp only [stepWith, hstep]
    refine ⟨hfollows.trans hfollows', ⟨hls', hsound'⟩, ?_, ?_, fun hout => ?_⟩
    · simp only [Cursor.restart, hrestart, hrestart']
    · simp only [remaining, hbrings.1]
      exact hbrings'
    · rw [hbefore, stepsLeft_append true hfollows'.holds hls' hsound']
      have := hfewer' hout
      simp only [↓reduceIte]
      omega

theorem append_right_advances {l r : Cursor} (hs : s.Holds content) (hls : l.Sound s n)
    (hrs : r.Sound s n) (hr : r.Advances content n s (r.stepWith pull s)) :
    (append l r true).Advances content n s ((append l r true).stepWith pull s) := by
  obtain ⟨hfollows, hsound, hrestart, hbrings, hfewer⟩ := hr
  have hls' := hls.later hfollows.grows
  simp only [stepWith]
  refine ⟨hfollows, ⟨hls', hsound⟩, ?_, ?_, fun hout => ?_⟩
  · simp only [Cursor.restart, hrestart]
  · simp only [remaining]
    exact hbrings
  · rw [stepsLeft_append true hs hls hrs,
      stepsLeft_append true hfollows.holds hls' hsound]
    have := hfewer hout
    simp only [↓reduceIte]
    omega

/-! ### Items replaced -/

theorem map_advances {f : Item → Entry} {input : Cursor} (hs : s.Holds content)
    (hin : input.Sound s n) (h : input.Advances content n s (input.stepWith pull s)) :
    (map f input).Advances content n s ((map f input).stepWith pull s) := by
  rcases hstep : input.stepWith pull s with ⟨out, input', s'⟩
  rw [hstep] at h
  obtain ⟨hfollows, hsound, hrestart, hbrings, hfewer⟩ := h
  simp only at hfollows hsound hrestart hbrings hfewer
  have hbefore := stepsLeft_map (f := f) hs hin
  have hafter := stepsLeft_map (f := f) hfollows.holds hsound
  match out with
  | .yield e =>
    simp only [stepWith, hstep]
    refine ⟨hfollows, hsound, ?_, ?_, fun _ => ?_⟩
    · simp only [Cursor.restart, hrestart]
    · have hleft : input.remaining content = e :: input'.remaining content := hbrings
      simp only [Step.Brings, remaining, hleft]
      rfl
    · rw [hbefore, hafter]
      exact hfewer (by simp)
  | .skip =>
    simp only [stepWith, hstep]
    refine ⟨hfollows, hsound, ?_, ?_, fun _ => ?_⟩
    · simp only [Cursor.restart, hrestart]
    · have hleft : input.remaining content = input'.remaining content := hbrings
      simp only [Step.Brings, remaining, hleft]
    · rw [hbefore, hafter]
      exact hfewer (by simp)
  | .done =>
    simp only [stepWith, hstep]
    refine ⟨hfollows, hsound, ?_, ?_, fun h => absurd rfl h⟩
    · simp only [Cursor.restart, hrestart]
    · simp only [Step.Brings, remaining, hbrings.1, hbrings.2, List.map_nil, and_self]

/-- A step of an expansion that has no values pending. -/
theorem expand_input_advances {nodes : NodeValues} {input : Cursor} (hs : s.Holds content)
    (hin : input.Sound s n) (h : input.Advances content n s (input.stepWith pull s)) :
    (expand nodes input []).Advances content n s ((expand nodes input []).stepWith pull s) := by
  rcases hstep : input.stepWith pull s with ⟨out, input', s'⟩
  rw [hstep] at h
  obtain ⟨hfollows, hsound, hrestart, hbrings, hfewer⟩ := h
  simp only at hfollows hsound hrestart hbrings hfewer
  have hbefore := stepsLeft_expand nodes [] hs hin
  -- The values that a node puts in the way are fewer than the steps that its own step counts for.
  have hroom {values : List Atomic} (hlength : values.length ≤ nodes.width) (hout : out ≠ .done) :
      (expand nodes input' values).stepsLeft s' < (expand nodes input []).stepsLeft s := by
    rw [hbefore, stepsLeft_expand _ _ hfollows.holds hsound, List.length_nil, Nat.zero_add]
    have hmul := Nat.mul_le_mul_left (nodes.width + 1) (hfewer hout)
    rw [Nat.succ_eq_add_one, Nat.mul_succ] at hmul
    omega
  have hnone : ([] : List Atomic).length ≤ nodes.width := Nat.zero_le _
  have hrestart' {values : List Atomic} :
      (expand nodes input' values).restart = (expand nodes input []).restart := by
    simp only [Cursor.restart, hrestart]
  cases out with
  | yield e =>
    cases e with
    | ok x =>
      cases x with
      | node k =>
        have hleft :
            input.remaining content = .ok (.node k) :: input'.remaining content := hbrings
        cases hvalues : nodes.values k with
        | ok values =>
          simp only [stepWith, hstep, hvalues]
          have hlength := nodes.length_le k _ hvalues
          refine ⟨hfollows, hsound, hrestart', ?_, fun _ => hroom hlength (by simp)⟩
          simp [Step.Brings, remaining, hleft, NodeValues.expansion, hvalues]
        | error e =>
          -- The node gives its failure in place of values, and the items behind it go on.
          simp only [stepWith, hstep, hvalues]
          refine ⟨hfollows, hsound, hrestart', ?_, fun _ => hroom hnone (by simp)⟩
          simp [Step.Brings, remaining, hleft, NodeValues.expansion, hvalues]
      | atomic a =>
        have hleft :
            input.remaining content = .ok (.atomic a) :: input'.remaining content := hbrings
        simp only [stepWith, hstep]
        refine ⟨hfollows, hsound, hrestart', ?_, fun _ => hroom hnone (by simp)⟩
        simp [Step.Brings, remaining, hleft, NodeValues.expansion]
    | error e =>
      simp only [stepWith, hstep]
      refine ⟨hfollows, hsound, hrestart', ?_, fun _ => hroom hnone (by simp)⟩
      have hleft : input.remaining content = .error e :: input'.remaining content := hbrings
      simp [Step.Brings, remaining, hleft, NodeValues.expansion]
  | skip =>
    simp only [stepWith, hstep]
    refine ⟨hfollows, hsound, hrestart', ?_, fun _ => hroom hnone (by simp)⟩
    have hleft : input.remaining content = input'.remaining content := hbrings
    simp only [Step.Brings, remaining, hleft]
  | done =>
    simp only [stepWith, hstep]
    refine ⟨hfollows, hsound, hrestart', ?_, fun h => absurd rfl h⟩
    simp [Step.Brings, remaining, hbrings.1, hbrings.2]

theorem expand_pending_advances {nodes : NodeValues} {input : Cursor} {a : Atomic}
    {pending : List Atomic} (hs : s.Holds content) (hin : input.Sound s n) :
    (expand nodes input (a :: pending)).Advances content n s
      ((expand nodes input (a :: pending)).stepWith pull s) := by
  simp only [stepWith]
  refine ⟨.refl hs, hin, rfl, ?_, fun _ => ?_⟩
  · simp [Step.Brings, remaining]
  · rw [stepsLeft_expand _ _ hs hin, stepsLeft_expand _ _ hs hin, List.length_cons]
    omega

/-! ### Set operations -/

theorem select_gathering_advances {op : SetOp} {l r : Cursor} {found : List NodeId}
    (hs : s.Holds content) (hls : l.Sound s n) (hrs : r.Sound s n)
    (hr : r.Advances content n s (r.stepWith pull s)) :
    (select op l r (.gathering found)).Advances content n s
      ((select op l r (.gathering found)).stepWith pull s) := by
  rcases hstep : r.stepWith pull s with ⟨out, r', s'⟩
  rw [hstep] at hr
  obtain ⟨hfollows, hsound, hrestart, hbrings, hfewer⟩ := hr
  simp only at hfollows hsound hrestart hbrings hfewer
  have hls' := hls.later hfollows.grows
  -- Pulling the right operand can only bring a buffer of the left one forward.
  have hsettled : l.stepsLeft s' ≤ l.stepsLeft s := hfollows.settles n l hls
  have hbefore := stepsLeft_select op (.gathering found) hs hls hrs
  have hafter (phase : SelectPhase) := stepsLeft_select op phase hfollows.holds hls' hsound
  have hrestart' (phase : SelectPhase) :
      (select op l r' phase).restart = (select op l r (.gathering found)).restart := by
    simp only [Cursor.restart, hrestart]
  cases out with
  | yield e =>
    cases e with
    | ok x =>
      cases x with
      | node k =>
        have hfewer := hfewer (by simp)
        simp only [stepWith, hstep, gather]
        refine ⟨hfollows, ⟨hls', hsound⟩, hrestart' _, ?_, fun _ => ?_⟩
        · have hleft : r.remaining content = .ok (.node k) :: r'.remaining content := hbrings
          simp only [Step.Brings, remaining, hleft, SetOp.outcome, SetOp.gathered]
        · rw [hbefore, hafter]
          dsimp only
          omega
      | atomic a =>
        simp only [stepWith, hstep, gather]
        refine ⟨hfollows, ⟨hls', hsound⟩, hrestart' _, ?_, fun _ => ?_⟩
        · have hleft : r.remaining content = .ok (.atomic a) :: r'.remaining content := hbrings
          simp only [Step.Brings, remaining, hleft, SetOp.outcome, SetOp.gathered]
        · rw [hbefore, hafter]
          exact Nat.succ_pos _
    | error e =>
      simp only [stepWith, hstep, gather]
      refine ⟨hfollows, ⟨hls', hsound⟩, hrestart' _, ?_, fun _ => ?_⟩
      · have hleft : r.remaining content = .error e :: r'.remaining content := hbrings
        simp only [Step.Brings, remaining, hleft, SetOp.outcome, SetOp.gathered]
      · rw [hbefore, hafter]
        exact Nat.succ_pos _
  | skip =>
    have hfewer := hfewer (by simp)
    simp only [stepWith, hstep]
    refine ⟨hfollows, ⟨hls', hsound⟩, hrestart' _, ?_, fun _ => ?_⟩
    · have hleft : r.remaining content = r'.remaining content := hbrings
      simp only [Step.Brings, remaining, hleft]
    · rw [hbefore, hafter]
      dsimp only
      omega
  | done =>
    simp only [stepWith, hstep]
    refine ⟨hfollows, ⟨hls', hsound⟩, hrestart' _, ?_, fun _ => ?_⟩
    · simp only [Step.Brings, remaining, hbrings.1, SetOp.outcome, SetOp.gathered]
    · rw [hbefore, hafter]
      dsimp only
      omega

theorem select_choosing_advances {op : SetOp} {l r : Cursor} {other seen : List NodeId}
    (hs : s.Holds content) (hls : l.Sound s n) (hrs : r.Sound s n)
    (hl : l.Advances content n s (l.stepWith pull s)) :
    (select op l r (.choosing other seen)).Advances content n s
      ((select op l r (.choosing other seen)).stepWith pull s) := by
  rcases hstep : l.stepWith pull s with ⟨out, l', s'⟩
  rw [hstep] at hl
  obtain ⟨hfollows, hsound, hrestart, hbrings, hfewer⟩ := hl
  simp only at hfollows hsound hrestart hbrings hfewer
  have hrs' := hrs.later hfollows.grows
  have hrestart' (phase : SelectPhase) :
      (select op l' r phase).restart = (select op l r (.choosing other seen)).restart := by
    simp only [Cursor.restart, hrestart]
  -- Only the left operand is read any more.
  have hless (seen' : List NodeId) (hout : out ≠ .done) :
      (select op l' r (.choosing other seen')).stepsLeft s' <
        (select op l r (.choosing other seen)).stepsLeft s := by
    rw [stepsLeft_select _ _ hs hls hrs, stepsLeft_select _ _ hfollows.holds hsound hrs']
    exact hfewer hout
  have hdrained (hout : out ≠ .done) : (select op l' r .draining).stepsLeft s' <
      (select op l r (.choosing other seen)).stepsLeft s := by
    rw [stepsLeft_select _ _ hs hls hrs, stepsLeft_select _ _ hfollows.holds hsound hrs']
    exact hfewer hout
  cases out with
  | yield e =>
    cases e with
    | ok x =>
      cases x with
      | node k =>
        have hleft : l.remaining content = .ok (.node k) :: l'.remaining content := hbrings
        simp only [stepWith, hstep, choose]
        by_cases hwants : (op.wants other k && !seen.contains k) = true
        · simp only [hwants, ↓reduceIte]
          refine ⟨hfollows, ⟨hsound, hrs'⟩, hrestart' _, ?_, fun _ => hless _ (by simp)⟩
          simp only [Step.Brings, remaining, hleft, SetOp.outcome, SetOp.chosen, hwants, ↓reduceIte]
        · simp only [hwants]
          refine ⟨hfollows, ⟨hsound, hrs'⟩, hrestart' _, ?_, fun _ => hless _ (by simp)⟩
          simp only [Step.Brings, remaining, hleft, SetOp.outcome, SetOp.chosen, hwants]
          rfl
      | atomic a =>
        simp only [stepWith, hstep, choose]
        refine ⟨hfollows, ⟨hsound, hrs'⟩, hrestart' _, ?_, fun _ => hdrained (by simp)⟩
        have hleft : l.remaining content = .ok (.atomic a) :: l'.remaining content := hbrings
        simp only [Step.Brings, remaining, hleft, SetOp.outcome, SetOp.chosen]
    | error e =>
      simp only [stepWith, hstep, choose]
      refine ⟨hfollows, ⟨hsound, hrs'⟩, hrestart' _, ?_, fun _ => hdrained (by simp)⟩
      have hleft : l.remaining content = .error e :: l'.remaining content := hbrings
      simp only [Step.Brings, remaining, hleft, SetOp.outcome, SetOp.chosen]
  | skip =>
    simp only [stepWith, hstep]
    refine ⟨hfollows, ⟨hsound, hrs'⟩, hrestart' _, ?_, fun _ => hless _ (by simp)⟩
    have hleft : l.remaining content = l'.remaining content := hbrings
    simp only [Step.Brings, remaining, hleft]
  | done =>
    simp only [stepWith, hstep]
    refine ⟨hfollows, ⟨hsound, hrs'⟩, hrestart' _, ?_, fun h => absurd rfl h⟩
    simp only [Step.Brings, remaining, hbrings.1, hbrings.2, SetOp.outcome, SetOp.chosen,
      and_self]

theorem select_draining_advances {op : SetOp} {l r : Cursor} (hs : s.Holds content)
    (hls : l.Sound s n) (hrs : r.Sound s n) (hl : l.Advances content n s (l.stepWith pull s)) :
    (select op l r .draining).Advances content n s
      ((select op l r .draining).stepWith pull s) := by
  rcases hstep : l.stepWith pull s with ⟨out, l', s'⟩
  rw [hstep] at hl
  obtain ⟨hfollows, hsound, hrestart, -, hfewer⟩ := hl
  simp only at hfollows hsound hrestart hfewer
  have hrs' := hrs.later hfollows.grows
  have hrestart' : (select op l' r .draining).restart = (select op l r .draining).restart := by
    simp only [Cursor.restart, hrestart]
  have hless (hout : out ≠ .done) : (select op l' r .draining).stepsLeft s' <
      (select op l r .draining).stepsLeft s := by
    rw [stepsLeft_select _ _ hs hls hrs, stepsLeft_select _ _ hfollows.holds hsound hrs']
    exact hfewer hout
  cases out with
  | yield | skip =>
    simp only [stepWith, hstep]
    exact ⟨hfollows, ⟨hsound, hrs'⟩, hrestart', rfl, fun _ => hless (by simp)⟩
  | done =>
    simp only [stepWith, hstep]
    exact ⟨hfollows, ⟨hsound, hrs'⟩, hrestart', ⟨rfl, rfl⟩, fun h => absurd rfl h⟩

/-! ### All cursors -/

/-- A step of a cursor, if the steps of the sources of buffers below it go on. -/
theorem stepWith_advances {c : Cursor}
    (hpull : ∀ i < n, ∀ s, s.Holds content → ∀ c : Cursor, c.Sound s i →
      c.Advances content i s (pull c s))
    (hs : s.Holds content) (hc : c.Sound s n) : c.Advances content n s (c.stepWith pull s) := by
  induction c generalizing s with
  | listed items rest => exact listed_advances hs items rest
  | range low high next => exact range_advances hs hc
  | producer name entries rest => exact producer_advances hs name entries rest
  | buffered i pos => exact stepBuffered_advances hs (hpull i hc.1 s hs) hc
  | append l r onRight ihl ihr =>
    cases onRight with
    | false => exact append_left_advances hs hc.1 hc.2 (ihl hs hc.1) fun s' => ihr
    | true => exact append_right_advances hs hc.1 hc.2 (ihr hs hc.2)
  | map f input ih => exact map_advances hs hc (ih hs hc)
  | expand nodes input pending ih =>
    cases pending with
    | nil => exact expand_input_advances hs hc (ih hs hc)
    | cons a pending => exact expand_pending_advances hs hc
  | select op l r phase ihl ihr =>
    cases phase with
    | gathering found => exact select_gathering_advances hs hc.1 hc.2 (ihr hs hc.2)
    | choosing other seen => exact select_choosing_advances hs hc.1 hc.2 (ihl hs hc.1)
    | draining => exact select_draining_advances hs hc.1 hc.2 (ihl hs hc.1)
    | closed => exact ⟨.refl hs, hc, rfl, ⟨rfl, rfl⟩, fun h => absurd rfl h⟩

/-- A step of a cursor with a depth that reaches all buffers that it reads. -/
theorem stepAt_advances {c : Cursor} {d : Nat} (hs : s.Holds content) (hc : c.Sound s n)
    (hd : n ≤ d) : c.Advances content n s (stepAt d c s) := by
  induction d generalizing n s c with
  | zero =>
    have hn : n = 0 := by omega
    subst hn
    exact stepWith_advances (fun i hi => absurd hi (Nat.not_lt_zero i)) hs hc
  | succ d ih =>
    refine stepWith_advances (fun i hi s hs c hc => ?_) hs hc
    exact ih hs hc (by omega)

theorem step_advances {c : Cursor} (hs : s.Holds content) (hc : c.Sound s s.buffers.size) :
    c.Advances content s.buffers.size s (c.step s) :=
  stepAt_advances hs hc (Nat.le_refl _)

/-! ### Reading -/

/-- Reading takes the first entry that a cursor has left. -/
structure Reads (content : Nat → List Entry) (c : Cursor) (s : Store)
    (r : Option Entry × Cursor × Store) : Prop where
  follows : s.Follows content s.buffers.size r.2.2
  sound : r.2.1.Sound r.2.2 r.2.2.buffers.size
  restart : r.2.1.restart = c.restart
  /-- What is read, or none at the end. -/
  head : r.1 = (c.remaining content).head?
  tail : r.2.1.remaining content = (c.remaining content).tail

theorem nextWithin_reads {steps : Nat} {c : Cursor} (hs : s.Holds content)
    (hc : c.Sound s s.buffers.size) (hsteps : c.stepsLeft s < steps) :
    c.Reads content s (nextWithin steps c s) := by
  induction steps generalizing c s with
  | zero => exact absurd hsteps (Nat.not_lt_zero _)
  | succ steps ih =>
    have hstep := step_advances hs hc
    rcases hr : c.step s with ⟨out, c', s'⟩
    rw [hr] at hstep
    obtain ⟨hfollows, hsound, hrestart, hbrings, hfewer⟩ := hstep
    simp only at hfollows hsound hrestart hbrings hfewer
    rw [← hfollows.size] at hsound
    match out with
    | .yield e =>
      have hleft : c.remaining content = e :: c'.remaining content := hbrings
      simp only [nextWithin, hr]
      exact ⟨hfollows, hsound, hrestart, by rw [hleft]; rfl, by rw [hleft]; rfl⟩
    | .done =>
      simp only [nextWithin, hr]
      exact ⟨hfollows, hsound, hrestart, by rw [hbrings.1]; rfl, by rw [hbrings.1, hbrings.2]; rfl⟩
    | .skip =>
      have hleft : c.remaining content = c'.remaining content := hbrings
      have hless := hfewer (by simp)
      simp only [nextWithin, hr]
      obtain ⟨hfollows', hsound', hrestart', hhead, htail⟩ :=
        ih hfollows.holds hsound (by omega)
      rw [hfollows.size] at hfollows'
      exact ⟨hfollows.trans hfollows', hsound', hrestart'.trans hrestart, hleft ▸ hhead,
        hleft ▸ htail⟩

/-- The bound on the steps is never reached: reading gives the first entry that is left. -/
theorem next_reads {c : Cursor} (hs : s.Holds content) (hc : c.Sound s s.buffers.size) :
    c.Reads content s (c.next s) :=
  nextWithin_reads hs hc (Nat.lt_succ_self _)

end Cursor

end XPathData
