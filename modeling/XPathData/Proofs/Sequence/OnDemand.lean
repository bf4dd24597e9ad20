import XPathData.Proofs.Sequence.Replay

/-! # A buffer reads its source on demand

  Readers of one buffer over a producer ask the producer for as many entries as the most eager
  reader needs, never for more, and for nothing behind its first error or its end. The state
  of the buffer is a function of the number of entries that were pulled, and a reading pulls
  at most one more.

  * `lastPull` — how many entries can be pulled from a producer
  * `Store.Pulled` — a store in which a buffer has pulled some entries
  * `Cursor.next_pulled` — one reading of one reader
  * `Pool.shared_reads_on_demand` — any number of readers in any order
-/

namespace XPathData

/-! ### Where a reading ends -/

/-- The number of the entry that ends a reading, counted from one: the first error, or the
    question that finds the end. -/
def lastPull (entries : List Entry) : Nat := entries.findIdx (fun e => !e.isOk) + 1

/-- The items before the first error. -/
def leadingItems : List Entry → List Item
  | .ok x :: l => x :: leadingItems l
  | _ => []

/-- The first error. -/
def firstError? : List Entry → Option Error
  | [] => none
  | .ok _ :: l => firstError? l
  | .error e :: _ => some e

theorem lastPull_eq (entries : List Entry) :
    lastPull entries = (leadingItems entries).length + 1 := by
  induction entries with
  | nil => rfl
  | cons e l ih =>
    cases e with
    | error e => rfl
    | ok x =>
      simp only [lastPull, List.findIdx_cons] at ih ⊢
      simpa [Except.isOk, Except.toBool, leadingItems] using ih

theorem upToError_eq (entries : List Entry) :
    upToError entries =
      (leadingItems entries).map .ok ++ (firstError? entries).toList.map .error := by
  induction entries with
  | nil => rfl
  | cons e l ih =>
    cases e with
    | error e => rfl
    | ok x => simp only [upToError, leadingItems, firstError?, ih, List.map_cons, List.cons_append]

/-- What is behind the leading items: the first error, or nothing. -/
theorem head?_drop_leading (entries : List Entry) :
    (entries.drop (leadingItems entries).length).head? = (firstError? entries).map .error := by
  induction entries with
  | nil => rfl
  | cons e l ih =>
    cases e with
    | error e => rfl
    | ok x => exact ih

theorem drop_eq_cons {entries : List Entry} {k : Nat} (hk : k < (leadingItems entries).length) :
    entries.drop k = .ok (leadingItems entries)[k] :: entries.drop (k + 1) := by
  induction entries generalizing k with
  | nil => exact absurd hk (Nat.not_lt_zero k)
  | cons e l ih =>
    cases e with
    | error e => exact absurd hk (Nat.not_lt_zero k)
    | ok x =>
      cases k with
      | zero => rfl
      | succ k => exact ih (Nat.lt_of_succ_lt_succ hk)

theorem length_leadingItems_le (entries : List Entry) :
    (leadingItems entries).length + (firstError? entries).toList.length ≤ entries.length := by
  induction entries with
  | nil => exact Nat.le_refl 0
  | cons e l ih =>
    cases e with
    | error e => simp [leadingItems, firstError?]
    | ok x =>
      simp only [leadingItems, firstError?, List.length_cons]
      omega

theorem length_leadingItems_of_none {entries : List Entry} (h : firstError? entries = none) :
    (leadingItems entries).length = entries.length := by
  induction entries with
  | nil => rfl
  | cons e l ih =>
    cases e with
    | error e => simp [firstError?] at h
    | ok x => simp only [leadingItems, List.length_cons, ih h]

theorem countP_take {entries : List Entry} {q : Nat} (hq : q ≤ lastPull entries) :
    (entries.take q).countP (·.isOk) = min q (leadingItems entries).length := by
  rw [lastPull_eq] at hq
  induction entries generalizing q with
  | nil => simp [leadingItems]
  | cons e l ih =>
    cases q with
    | zero => simp
    | succ q =>
      cases e with
      | error e =>
        have hzero : q = 0 := by simp only [leadingItems, List.length_nil] at hq; omega
        subst hzero
        rfl
      | ok x =>
        simp only [leadingItems, List.length_cons] at hq ⊢
        rw [List.take_succ_cons, List.countP_cons_of_pos rfl, ih (by omega)]
        omega

/-! ### A buffer that has pulled some entries -/

/-- The buffer of a producer of which `q` entries were pulled. -/
def Buffer.pulled (name : String) (entries : List Entry) (q : Nat) : Buffer :=
  if q ≤ (leadingItems entries).length then
    ⟨((leadingItems entries).take q).toArray,
      some (.producer name entries (if q = 0 then none else some (entries.drop q))), none⟩
  else ⟨(leadingItems entries).toArray, none, firstError? entries⟩

/-- What the producer was asked for when `q` of its entries were pulled in one run. -/
def Tally.pulled (t : Tally) (entries : List Entry) (q : Nat) : Tally :=
  ⟨t.runs + min q 1, t.pulls + q, t.produced + min q entries.length⟩

/-- A store in which a buffer made over `s₀` has pulled `q` entries of a producer. -/
structure Store.Pulled (s₀ : Store) (name : String) (entries : List Entry) (q : Nat)
    (s : Store) : Prop where
  buffer : s.buffers[s₀.buffers.size]? = some (.pulled name entries q)
  tally : s.tally name = (s₀.tally name).pulled entries q

theorem Store.tally_setTally (s : Store) (name : String) (t : Tally) :
    (s.setTally name t).tally name = t := by
  simp [Store.setTally, Store.tally]

theorem Store.tally_noteRun (s : Store) (name : String) :
    (s.noteRun name).tally name = { s.tally name with runs := (s.tally name).runs + 1 } :=
  s.tally_setTally name _

theorem Store.tally_notePull (s : Store) (name : String) :
    (s.notePull name).tally name = { s.tally name with pulls := (s.tally name).pulls + 1 } :=
  s.tally_setTally name _

theorem Store.tally_noteEntry (s : Store) (name : String) :
    (s.noteEntry name).tally name = { s.tally name with produced := (s.tally name).produced + 1 } :=
  s.tally_setTally name _

namespace Cursor

/-! ### One reading -/

variable {s s' : Store} {c c' : Cursor}

theorem next_of_yield {e : Entry} (h : c.step s = (.yield e, c', s')) :
    c.next s = (some e, c', s') := by
  rw [next, nextWithin, h]

theorem next_of_done (h : c.step s = (.done, c', s')) : c.next s = (none, c', s') := by
  rw [next, nextWithin, h]

/-- A step of a reader goes through the buffer with a step of its source. -/
theorem step_reader {i : Nat} {b : Buffer} (hb : s.buffers[i]? = some b) (pos : Nat) :
    ∃ d, (buffered i pos).step s = stepBuffered (stepAt d) i pos s := by
  have hi : i < s.buffers.size := (Array.getElem?_eq_some_iff.1 hb).1
  obtain ⟨d, hd⟩ : ∃ d, s.buffers.size = d + 1 := ⟨s.buffers.size - 1, by omega⟩
  exact ⟨d, by rw [step, hd]; rfl⟩

/-- A producer is asked in the same way at every depth. -/
theorem stepAt_producer (d : Nat) (name : String) (entries : List Entry)
    (rest : Option (List Entry)) (s : Store) :
    stepAt d (producer name entries rest) s =
      match rest.getD entries with
      | [] => (.done, producer name entries (some []),
          (if rest.isNone then s.noteRun name else s).notePull name)
      | e :: l => (.yield e, producer name entries (some l),
          ((if rest.isNone then s.noteRun name else s).notePull name).noteEntry name) := by
  cases d <;> rfl

/-- A reader that another one has overtaken reads an item of the buffer. -/
theorem next_overtaken {s₀ : Store} {name : String} {entries : List Entry} {q k : Nat}
    (hs : s₀.Pulled name entries q s) (hk : k < q) (hlead : k < (leadingItems entries).length) :
    (buffered s₀.buffers.size k).next s =
      (some (.ok (leadingItems entries)[k]), buffered s₀.buffers.size (k + 1), s) := by
  obtain ⟨d, hstep⟩ := step_reader hs.buffer k
  have hitem : (Buffer.pulled name entries q).items[k]? = some (leadingItems entries)[k] := by
    unfold Buffer.pulled
    split
    · simp [hk, hlead]
    · simp [hlead]
  apply next_of_yield
  rw [hstep]
  simp only [stepBuffered, hs.buffer, hitem]

end Cursor

section Pulling

variable {s₀ s s' : Store} {name : String} {entries : List Entry} {q : Nat}

theorem length_upToError (entries : List Entry) :
    (upToError entries).length =
      (leadingItems entries).length + (firstError? entries).toList.length := by
  rw [upToError_eq, List.length_append, List.length_map, List.length_map]

theorem Buffer.pulled_live (name : String) (hq : q ≤ (leadingItems entries).length) :
    Buffer.pulled name entries q = ⟨((leadingItems entries).take q).toArray,
      some (.producer name entries (if q = 0 then none else some (entries.drop q))), none⟩ :=
  if_pos hq

theorem Buffer.pulled_ended (hq : (leadingItems entries).length < q) :
    Buffer.pulled name entries q =
      ⟨(leadingItems entries).toArray, none, firstError? entries⟩ :=
  if_neg (Nat.not_le.2 hq)

/-- Asking a run for an entry, or the first time starting it. -/
theorem Store.Pulled.tally_asked (hs : s₀.Pulled name entries q s) {rest : Option (List Entry)}
    (hrest : rest = if q = 0 then none else some (entries.drop q)) :
    ((if rest.isNone then s.noteRun name else s).notePull name).tally name =
      ⟨(s₀.tally name).runs + 1, (s₀.tally name).pulls + (q + 1),
        (s₀.tally name).produced + min q entries.length⟩ := by
  rw [Store.tally_notePull]
  by_cases hq : q = 0
  · subst hq hrest
    simp only [↓reduceIte, Option.isNone_none, Store.tally_noteRun, hs.tally, Tally.pulled]
    rfl
  · subst hrest
    simp only [hq, ↓reduceIte, Option.isNone_some, Bool.false_eq_true, hs.tally, Tally.pulled]
    rw [Nat.min_eq_right (by omega), Nat.add_assoc]

/-- The buffer is written behind one more pull. -/
theorem Store.Pulled.write (hs : s₀.Pulled name entries q s) (hbuffers : s'.buffers = s.buffers)
    (htally : s'.tally name = (s₀.tally name).pulled entries (q + 1)) {b : Buffer}
    (hb : b = .pulled name entries (q + 1)) :
    s₀.Pulled name entries (q + 1) (s'.setBuffer s₀.buffers.size b) where
  buffer := by
    subst hb
    exact getElem?_setBuffer_self (hbuffers ▸ hs.buffer)
  tally := htally

/-- A reader behind all that was pulled pulls one more entry. -/
theorem Cursor.next_pulls (hs : s₀.Pulled name entries q s)
    (hq : q ≤ (leadingItems entries).length) :
    ∃ s', (buffered s₀.buffers.size q).next s = ((upToError entries)[q]?,
        buffered s₀.buffers.size (min (q + 1) (upToError entries).length), s') ∧
      s₀.Pulled name entries (q + 1) s' := by
  obtain ⟨d, hstep⟩ := step_reader hs.buffer q
  have hsize : ((leadingItems entries).take q).toArray.size = q := by
    simp only [List.size_toArray, List.length_take]
    omega
  have hend : ((leadingItems entries).take q).toArray[q]? = none :=
    Array.getElem?_eq_none (Nat.le_of_eq hsize)
  have hlive := Buffer.pulled_live name hq
  generalize hrun : (if q = 0 then none else some (entries.drop q)) = rest at hlive
  have hrest : rest.getD entries = entries.drop q := by
    subst hrun
    by_cases hzero : q = 0
    · simp [hzero]
    · simp [hzero]
  have htally := hs.tally_asked hrun.symm
  have hbuffers : ((if rest.isNone then s.noteRun name else s).notePull name).buffers =
      s.buffers := by
    split <;> rfl
  have hlength := length_upToError entries
  have hlead := length_leadingItems_le entries
  simp only [stepBuffered, hs.buffer, hlive, hend, hsize, Nat.lt_irrefl,
    ↓reduceIte, stepAt_producer, hrest] at hstep
  rcases Nat.lt_or_eq_of_le hq with hlt | rfl
  · -- One more item.
    have hentry : (upToError entries)[q]? = some (.ok (leadingItems entries)[q]) := by
      rw [upToError_eq, List.getElem?_append_left (by simpa using hlt)]
      simp [hlt]
    rw [drop_eq_cons hlt] at hstep
    rw [hentry, Nat.min_eq_left (by omega)]
    refine ⟨_, next_of_yield hstep, hs.write ?_ ?_ ?_⟩
    · exact hbuffers
    · rw [Store.tally_noteEntry, htally, Tally.pulled]
      simp only [Tally.mk.injEq, true_and]
      omega
    · rw [Buffer.pulled_live name hlt, if_neg (Nat.succ_ne_zero q),
        List.take_succ_eq_append_getElem hlt, List.push_toArray]
  · have hhead := head?_drop_leading entries
    cases hfail : firstError? entries with
    | some e =>
      -- The failure.
      rw [hfail] at hhead hlength hlead
      obtain ⟨l, hl⟩ : ∃ l, entries.drop (leadingItems entries).length = .error e :: l := by
        cases hdrop : entries.drop (leadingItems entries).length with
        | nil => simp [hdrop] at hhead
        | cons e' l =>
          simp [hdrop] at hhead
          exact ⟨l, by rw [hhead]⟩
      have hentry : (upToError entries)[(leadingItems entries).length]? = some (.error e) := by
        rw [upToError_eq, hfail, List.getElem?_append_right (by simp)]
        simp
      rw [hl] at hstep
      simp only [Option.toList_some, List.length_singleton] at hlength hlead
      rw [hentry, Nat.min_eq_left (by omega)]
      refine ⟨_, next_of_yield hstep, hs.write ?_ ?_ ?_⟩
      · exact hbuffers
      · rw [Store.tally_noteEntry, htally, Tally.pulled]
        simp only [Tally.mk.injEq, true_and]
        omega
      · rw [Buffer.pulled_ended (Nat.lt_succ_self _), hfail, List.take_length]
    | none =>
      -- The end.
      rw [hfail] at hhead hlength
      have hnil : entries.drop (leadingItems entries).length = [] := by
        simpa using hhead
      have hentry : (upToError entries)[(leadingItems entries).length]? = none :=
        List.getElem?_eq_none (by simp [hlength])
      have hall := length_leadingItems_of_none hfail
      rw [hnil] at hstep
      simp only [Option.toList_none, List.length_nil, Nat.add_zero] at hlength
      rw [hentry, Nat.min_eq_right (by omega), hlength]
      refine ⟨_, next_of_done hstep, hs.write hbuffers ?_ ?_⟩
      · rw [htally, Tally.pulled]
        simp only [Tally.mk.injEq, true_and]
        omega
      · rw [Buffer.pulled_ended (Nat.lt_succ_self _), hfail, List.take_length]

/-- A reader behind the items of a buffer whose reading has ended gets the failure once, and
    then nothing. -/
theorem Cursor.next_ended (hs : s₀.Pulled name entries q s)
    (hq : (leadingItems entries).length < q) {k : Nat}
    (hk : (leadingItems entries).length ≤ k) :
    (buffered s₀.buffers.size (min k (upToError entries).length)).next s =
      ((upToError entries)[k]?,
        buffered s₀.buffers.size (min (k + 1) (upToError entries).length), s) := by
  have hlength := length_upToError entries
  have hb := hs.buffer
  rw [Buffer.pulled_ended hq] at hb
  obtain ⟨d, hstep⟩ := step_reader hs.buffer (min k (upToError entries).length)
  cases hfail : firstError? entries with
  | none =>
    rw [hfail] at hlength hb
    simp only [Option.toList_none, List.length_nil, Nat.add_zero] at hlength
    have hentry : (upToError entries)[k]? = none := List.getElem?_eq_none (by omega)
    rw [Nat.min_eq_right (by omega)] at hstep
    rw [hentry, Nat.min_eq_right (by omega), Nat.min_eq_right (by omega)]
    apply next_of_done
    rw [hstep]
    simp [stepBuffered, hb, hlength]
  | some e =>
    rw [hfail] at hlength hb
    simp only [Option.toList_some, List.length_singleton] at hlength
    rcases Nat.lt_or_eq_of_le hk with hlt | rfl
    · -- The failure was given out before.
      have hentry : (upToError entries)[k]? = none := List.getElem?_eq_none (by omega)
      rw [Nat.min_eq_right (by omega)] at hstep
      rw [hentry, Nat.min_eq_right (by omega), Nat.min_eq_right (by omega)]
      apply next_of_done
      rw [hstep]
      simp [stepBuffered, hb, hlength]
    · have hentry : (upToError entries)[(leadingItems entries).length]? = some (.error e) := by
        rw [upToError_eq, hfail, List.getElem?_append_right (by simp)]
        simp
      rw [Nat.min_eq_left (by omega)] at hstep
      rw [hentry, Nat.min_eq_left (by omega), Nat.min_eq_left (by omega)]
      apply next_of_yield
      rw [hstep]
      simp [stepBuffered, hb]

/-- One reading of a reader that was asked `k` times: it gets its next entry, and one more
    entry is pulled exactly if no reader was asked as often. -/
theorem Cursor.next_pulled (hs : s₀.Pulled name entries q s) (hq : q ≤ lastPull entries) {k : Nat}
    (hk : min k (lastPull entries) ≤ q) :
    ∃ s', (buffered s₀.buffers.size (min k (upToError entries).length)).next s =
        ((upToError entries)[k]?,
          buffered s₀.buffers.size (min (k + 1) (upToError entries).length), s') ∧
      s₀.Pulled name entries (max q (min (k + 1) (lastPull entries))) s' := by
  have hlast := lastPull_eq entries
  have hlength := length_upToError entries
  -- The entry was pulled for another reader, or the reading has ended, or it goes on here.
  by_cases hovertaken : k < q ∧ k < (leadingItems entries).length
  · obtain ⟨hkq, hklead⟩ := hovertaken
    have hentry : (upToError entries)[k]? = some (.ok (leadingItems entries)[k]) := by
      rw [upToError_eq, List.getElem?_append_left (by simpa using hklead)]
      simp [hklead]
    rw [hentry, Nat.min_eq_left (by omega), Nat.min_eq_left (by omega),
      Nat.max_eq_left (by omega)]
    exact ⟨s, next_overtaken hs hkq hklead, hs⟩
  · by_cases hended : (leadingItems entries).length < q
    · rw [Nat.max_eq_left (by omega)]
      exact ⟨s, next_ended hs hended (by omega), hs⟩
    · have hkq : k = q := by omega
      subst hkq
      have hpos : min k (upToError entries).length = k := by omega
      have hmore : max k (min (k + 1) (lastPull entries)) = k + 1 := by omega
      rw [hpos, hmore]
      exact next_pulls hs (by omega)

end Pulling

/-! ### Readers of one buffer -/

/-- What becomes of readers of a buffer: they are copied and they are read. -/
inductive Move where
  | clone (h : Nat)
  | next (h : Nat)

namespace Pool

/-- A buffer made over a producer, with one handle that reads it. -/
def shared (s : Store) (name : String) (entries : List Entry) : Pool :=
  match (Stream.ofProducer name entries).buffered s with
  | (.ok t, s) => ⟨s, [⟨t.cursor, []⟩]⟩
  | (.error _, s) => ⟨s, []⟩

/-- Copies a handle or reads it, if it is there. -/
def move (p : Pool) : Move → Pool
  | .clone i =>
    match p.handles[i]? with
    | some h => p.make h.cursor.restart
    | none => p
  | .next i => p.next i

/-- Makes moves, one after the other. -/
def moveAll (p : Pool) (moves : List Move) : Pool := moves.foldl move p

/-- How often the handle was asked that was asked most often. -/
def mostAsked (p : Pool) : Nat := (p.handles.map (·.answers.length)).foldr max 0

/-- A pool whose readers have asked the producer of their buffer as often as the most eager of
    them needs. -/
structure ReadsOnDemand (s₀ : Store) (name : String) (entries : List Entry) (p : Pool) :
    Prop where
  /-- The producer is started once, when it is first needed. -/
  runs : (p.store.tally name).runs = (s₀.tally name).runs + min p.mostAsked 1
  /-- It is asked until the first error or the end. -/
  pulls : (p.store.tally name).pulls =
    (s₀.tally name).pulls + min p.mostAsked (lastPull entries)
  produced : (p.store.tally name).produced =
    (s₀.tally name).produced + min (min p.mostAsked (lastPull entries)) entries.length
  /-- The buffer holds the items among the entries that were pulled. -/
  cached : ∀ h ∈ p.handles, h.cursor.bufferedLength? p.store =
    some ((entries.take (min p.mostAsked (lastPull entries))).countP (·.isOk))
  answers : ∀ h ∈ p.handles, h.answers =
    (List.range h.answers.length).map fun k => (upToError entries)[k]?
  /-- Each reader gets the failure once, at its place. -/
  failure : ∀ h ∈ p.handles, ∀ (k : Nat) (e : Error), h.answers[k]? = some (some (.error e)) ↔
    k < h.answers.length ∧ k + 1 = lastPull entries ∧ entries[k]? = some (.error e)
  /-- Behind the first error or the end the producer is not asked again. -/
  finished : lastPull entries ≤ p.mostAsked → ∀ more : List Move,
    (p.moveAll more).store.tally name = p.store.tally name

end Pool

/-! ### The invariant -/

/-- A reader of a buffer that was asked `k` times. -/
def Handle.asked (i : Nat) (entries : List Entry) (k : Nat) : Handle :=
  ⟨.buffered i (min k (upToError entries).length),
    (List.range k).map fun j => (upToError entries)[j]?⟩

theorem Handle.length_answers_asked (i : Nat) (entries : List Entry) (k : Nat) :
    (Handle.asked i entries k).answers.length = k := by
  simp [Handle.asked]

/-- All handles read the buffer made over `s₀`; they were asked as often as `asked` says. -/
structure Pool.Shared (s₀ : Store) (name : String) (entries : List Entry) (asked : List Nat)
    (p : Pool) : Prop where
  handles : p.handles = asked.map (Handle.asked s₀.buffers.size entries)
  pulled : s₀.Pulled name entries (min (asked.foldr max 0) (lastPull entries)) p.store

theorem foldr_max_concat_zero (l : List Nat) : (l ++ [0]).foldr max 0 = l.foldr max 0 := by
  rw [List.foldr_append]
  rfl

theorem le_foldr_max {l : List Nat} {i : Nat} (hi : i < l.length) : l[i] ≤ l.foldr max 0 := by
  induction l generalizing i with
  | nil => exact absurd hi (Nat.not_lt_zero i)
  | cons k l ih =>
    cases i with
    | zero => exact Nat.le_max_left _ _
    | succ i => exact Nat.le_trans (ih (Nat.lt_of_succ_lt_succ hi)) (Nat.le_max_right _ _)

/-- A number that grows makes the greatest one grow only if it becomes greater. -/
theorem foldr_max_set {l : List Nat} {i k : Nat} (hi : i < l.length) (hk : l[i] ≤ k) :
    (l.set i k).foldr max 0 = max (l.foldr max 0) k := by
  induction l generalizing i with
  | nil => exact absurd hi (Nat.not_lt_zero i)
  | cons j l ih =>
    cases i with
    | zero =>
      have hjk : j ≤ k := hk
      simp only [List.set_cons_zero, List.foldr_cons]
      omega
    | succ i =>
      simp only [List.set_cons_succ, List.foldr_cons, ih (Nat.lt_of_succ_lt_succ hi) hk]
      omega

namespace Pool.Shared

variable {s₀ : Store} {name : String} {entries : List Entry} {asked : List Nat} {p : Pool}

theorem start (s : Store) (name : String) (entries : List Entry) :
    (Pool.shared s name entries).Shared s name entries [0] where
  handles := rfl
  pulled := by
    refine ⟨?_, rfl⟩
    show (s.buffers.push _)[s.buffers.size]? = _
    rw [Array.getElem?_push_size]
    rfl

/-- A move asks at most one handle for one entry more. -/
theorem move (h : p.Shared s₀ name entries asked) (m : Move) :
    ∃ asked', (p.move m).Shared s₀ name entries asked' ∧
      asked.foldr max 0 ≤ asked'.foldr max 0 := by
  cases m with
  | clone i =>
    simp only [Pool.move, h.handles, List.getElem?_map]
    by_cases hi : i < asked.length
    · rw [List.getElem?_eq_getElem hi]
      simp only [Option.map_some]
      refine ⟨asked ++ [0], ⟨?_, ?_⟩, ?_⟩
      · simp only [Pool.make, h.handles, List.map_append, List.map_cons, List.map_nil,
          Handle.asked, Cursor.restart, Nat.zero_min, List.range_zero]
      · rw [foldr_max_concat_zero]
        exact h.pulled
      · rw [foldr_max_concat_zero]
    · rw [List.getElem?_eq_none (Nat.le_of_not_lt hi)]
      exact ⟨asked, h, Nat.le_refl _⟩
  | next i =>
    simp only [Pool.move, Pool.next, h.handles, List.getElem?_map]
    by_cases hi : i < asked.length
    · have hmost := le_foldr_max hi
      obtain ⟨s', hnext, hpulled⟩ := Cursor.next_pulled h.pulled (Nat.min_le_right _ _)
        (k := asked[i]) (by omega)
      have hset := foldr_max_set hi (Nat.le_succ asked[i])
      rw [List.getElem?_eq_getElem hi]
      simp only [Option.map_some, Handle.asked, hnext]
      refine ⟨asked.set i (asked[i] + 1), ⟨?_, ?_⟩, ?_⟩
      · rw [List.map_set]
        simp only [Handle.asked, List.range_succ, List.map_append, List.map_cons, List.map_nil]
      · have hmore : min ((asked.set i (asked[i] + 1)).foldr max 0) (lastPull entries) =
            max (min (asked.foldr max 0) (lastPull entries))
              (min (asked[i] + 1) (lastPull entries)) := by
          rw [hset]
          omega
        rw [hmore]
        exact hpulled
      · rw [hset]
        exact Nat.le_max_left _ _
    · rw [List.getElem?_eq_none (Nat.le_of_not_lt hi)]
      exact ⟨asked, h, Nat.le_refl _⟩

theorem moveAll (h : p.Shared s₀ name entries asked) (moves : List Move) :
    ∃ asked', (p.moveAll moves).Shared s₀ name entries asked' ∧
      asked.foldr max 0 ≤ asked'.foldr max 0 := by
  induction moves generalizing p asked with
  | nil => exact ⟨asked, h, Nat.le_refl _⟩
  | cons m moves ih =>
    obtain ⟨asked', h', hle⟩ := h.move m
    obtain ⟨asked'', h'', hle'⟩ := ih h'
    exact ⟨asked'', h'', Nat.le_trans hle hle'⟩

theorem mostAsked_eq (h : p.Shared s₀ name entries asked) : p.mostAsked = asked.foldr max 0 := by
  have hlength : p.handles.map (·.answers.length) = asked := by
    rw [h.handles, List.map_map]
    exact (List.map_congr_left fun k _ => Handle.length_answers_asked _ _ k).trans (List.map_id _)
  rw [Pool.mostAsked, hlength]

/-- The handles in the form that the invariant gives them. -/
theorem eq_asked (h : p.Shared s₀ name entries asked) {g : Handle} (hg : g ∈ p.handles) :
    g = Handle.asked s₀.buffers.size entries g.answers.length := by
  rw [h.handles, List.mem_map] at hg
  obtain ⟨k, -, rfl⟩ := hg
  rw [Handle.length_answers_asked]

theorem size_pulled {q : Nat} (hq : q ≤ lastPull entries) :
    (Buffer.pulled name entries q).items.size = min q (leadingItems entries).length := by
  rw [lastPull_eq] at hq
  unfold Buffer.pulled
  split
  · simp
  · simp only [List.size_toArray]
    omega

/-- An answer is an error exactly at the place of the first error. -/
theorem answer_eq_error {k : Nat} {e : Error} :
    (upToError entries)[k]? = some (.error e) ↔
      k + 1 = lastPull entries ∧ entries[k]? = some (.error e) := by
  have hhead := head?_drop_leading entries
  rw [List.head?_drop] at hhead
  rw [upToError_eq, lastPull_eq]
  rcases Nat.lt_trichotomy k (leadingItems entries).length with hk | rfl | hk
  · rw [List.getElem?_append_left (by simpa using hk), List.getElem?_map,
      List.getElem?_eq_getElem hk]
    constructor
    · intro he
      cases he
    · intro he
      omega
  · rw [List.getElem?_append_right (by simp), List.length_map, Nat.sub_self, hhead]
    cases firstError? entries <;> simp
  · rw [List.getElem?_eq_none]
    · constructor
      · intro he
        cases he
      · intro he
        omega
    · have hone : (firstError? entries).toList.length ≤ 1 := by
        cases firstError? entries <;> simp
      simp
      omega

theorem readsOnDemand (h : p.Shared s₀ name entries asked) :
    p.ReadsOnDemand s₀ name entries := by
  have hmost := h.mostAsked_eq
  have htally := h.pulled.tally
  rw [← hmost] at htally
  have hone : 1 ≤ lastPull entries := Nat.le_add_left 1 _
  refine ⟨?_, ?_, ?_, fun g hg => ?_, fun g hg => ?_, fun g hg k e => ?_, fun hended more => ?_⟩
  · rw [htally]
    show _ + min (min p.mostAsked (lastPull entries)) 1 = _
    omega
  · rw [htally]
    rfl
  · rw [htally]
    rfl
  · rw [h.eq_asked hg]
    have hbuffer := h.pulled.buffer
    rw [← hmost] at hbuffer
    simp only [Handle.asked, Cursor.bufferedLength?, hbuffer, Option.map_some,
      size_pulled (Nat.min_le_right _ _), countP_take (Nat.min_le_right _ _)]
  · exact congrArg Handle.answers (h.eq_asked hg)
  · rw [show g.answers = _ from congrArg Handle.answers (h.eq_asked hg)]
    by_cases hk : k < g.answers.length
    · simp only [Handle.asked, List.getElem?_map, List.getElem?_range hk, Option.map_some,
        Option.some.injEq, List.length_map, List.length_range, hk, true_and, answer_eq_error]
    · simp [Handle.asked, hk]
  · obtain ⟨asked', h', hle⟩ := h.moveAll more
    rw [hmost] at hended
    rw [h'.pulled.tally, h.pulled.tally, Nat.min_eq_right hended,
      Nat.min_eq_right (Nat.le_trans hended hle)]

end Pool.Shared

/-! ### On demand -/

/-- Any number of readers of one buffer over a producer, copied at any moment and read in any
    order: the producer is started once at most and is asked for as many entries as the reader
    that was asked most often needs, up to the first error or the end. From then on it is not
    asked again. -/
theorem Pool.shared_reads_on_demand (s : Store) (name : String) (entries : List Entry)
    (moves : List Move) :
    ((Pool.shared s name entries).moveAll moves).ReadsOnDemand s name entries := by
  obtain ⟨asked, h, -⟩ := (Pool.Shared.start s name entries).moveAll moves
  exact h.readsOnDemand

end XPathData
