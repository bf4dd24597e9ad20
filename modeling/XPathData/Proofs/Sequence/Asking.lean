import Mathlib.Algebra.BigOperators.Group.Finset.Basic
import XPathData.Proofs.Sequence.Reading

/-! # What producers can still be asked for

  A producer is started by the first reading of it and gives each of its entries once in a
  run, so its reader knows what it can still ask for. Readers of one buffer share what the
  source of the buffer can ask for. Starts that were made and starts that can still be made
  are an amortized sum: a step only moves from the second part to the first one. The entries
  are counted in the same way.

  * `Demand` — starts and entries
  * `Store.account` — what was asked for, with what the sources of buffers can still ask for
  * `Cursor.stepAt_pays` — a step keeps the account together with what its cursor can ask for
  * `Pool.BehindBuffers.moveAll` — handles that read producers through buffers never raise it
-/

namespace XPathData

variable {content : Nat → List Entry} {n i : Nat} {s s' s'' : Store} {I : Finset Nat}
  {d : Demand} {name : String}

/-! ### Demands -/

/-- What is asked of a producer. -/
inductive Demand where
  /-- That it starts a run. -/
  | start
  /-- That it gives an entry. -/
  | entry

namespace Demand

/-- How often it was asked. -/
def met : Demand → Tally → Nat
  | start, t => t.runs
  | entry, t => t.produced

/-- How often a reader of a producer can still ask, when its run has `rest` left. -/
def owing (entries : List Entry) (rest : Option (List Entry)) : Demand → Nat
  | start => if rest.isNone then 1 else 0
  | entry => (rest.getD entries).length

/-- How often fresh readers of some producers can ask. -/
def total : Demand → List (List Entry) → Nat
  | start, l => l.length
  | entry, l => l.flatten.length

theorem total_append (d : Demand) (l l' : List (List Entry)) :
    d.total (l ++ l') = d.total l + d.total l' := by
  cases d <;> simp [total]

end Demand

/-! ### Cursors -/

namespace Cursor

/-- The entries of the producers of a name that a cursor reads without a buffer between them. -/
def leaves (name : String) : Cursor → List (List Entry)
  | listed .. | range .. | buffered .. => []
  | producer other entries _ => if other = name then [entries] else []
  | append l r _ => l.leaves name ++ r.leaves name
  | map _ input => input.leaves name
  | expand _ input _ => input.leaves name
  | select _ l r _ => l.leaves name ++ r.leaves name

/-- All buffers that a cursor reads are in a set. -/
def Within (I : Finset Nat) : Cursor → Prop
  | listed .. | range .. | producer .. => True
  | buffered i _ => i ∈ I
  | append l r _ => l.Within I ∧ r.Within I
  | map _ input => input.Within I
  | expand _ input _ => input.Within I
  | select _ l r _ => l.Within I ∧ r.Within I

/-- How often a cursor can still ask the producers of a name, buffers left out. -/
def owing (d : Demand) (name : String) : Cursor → Nat
  | listed .. | range .. | buffered .. => 0
  | producer other entries rest => if other = name then d.owing entries rest else 0
  | append l r _ => l.owing d name + r.owing d name
  | map _ input => input.owing d name
  | expand _ input _ => input.owing d name
  | select _ l r _ => l.owing d name + r.owing d name

@[simp] theorem leaves_restart (c : Cursor) : c.restart.leaves name = c.leaves name := by
  induction c with
  | listed | range | producer | buffered => rfl
  | append l r onRight ihl ihr => simp only [restart, leaves, ihl, ihr]
  | map f input ih => simp only [restart, leaves, ih]
  | expand nodes input pending ih => simp only [restart, leaves, ih]
  | select op l r phase ihl ihr => simp only [restart, leaves, ihl, ihr]

@[simp] theorem within_restart {c : Cursor} : c.restart.Within I ↔ c.Within I := by
  induction c with
  | listed | range | producer | buffered => rfl
  | append l r onRight ihl ihr => simp only [restart, Within, ihl, ihr]
  | map f input ih => simp only [restart, Within, ih]
  | expand nodes input pending ih => simp only [restart, Within, ih]
  | select op l r phase ihl ihr => simp only [restart, Within, ihl, ihr]

/-- The shape of a cursor decides which producers and which buffers it reads. -/
theorem leaves_of_restart_eq {c c' : Cursor} (h : c'.restart = c.restart) :
    c'.leaves name = c.leaves name := by
  rw [← leaves_restart c', h, leaves_restart]

theorem within_of_restart_eq {c c' : Cursor} (h : c'.restart = c.restart) (hc : c.Within I) :
    c'.Within I := by
  rwa [← within_restart, h, within_restart]

theorem Within.mono {J : Finset Nat} {c : Cursor} (h : c.Within I) (hIJ : I ⊆ J) :
    c.Within J := by
  induction c with
  | listed | range | producer => trivial
  | buffered i pos => exact hIJ h
  | append l r onRight ihl ihr => exact ⟨ihl h.1, ihr h.2⟩
  | map f input ih => exact ih h
  | expand nodes input pending ih => exact ih h
  | select op l r phase ihl ihr => exact ⟨ihl h.1, ihr h.2⟩

theorem Sound.within_range {c : Cursor} (h : c.Sound s n) : c.Within (Finset.range n) := by
  induction c with
  | listed | range | producer => trivial
  | buffered i pos => exact Finset.mem_range.2 h.1
  | append l r onRight ihl ihr => exact ⟨ihl h.1, ihr h.2⟩
  | map f input ih => exact ih h
  | expand nodes input pending ih => exact ih h
  | select op l r phase ihl ihr => exact ⟨ihl h.1, ihr h.2⟩

/-- A fresh copy can ask each producer for all that it gives. -/
theorem owing_restart (c : Cursor) : c.restart.owing d name = d.total (c.leaves name) := by
  have hnil : d.total [] = 0 := by cases d <;> rfl
  induction c with
  | listed | range | buffered => exact hnil.symm
  | producer other entries rest =>
    simp only [restart, ofProducer, owing, leaves]
    split
    · cases d <;> simp [Demand.owing, Demand.total]
    · exact hnil.symm
  | append l r onRight ihl ihr => simp only [restart, owing, leaves, ihl, ihr, d.total_append]
  | map f input ih => simp only [restart, owing, leaves, ih]
  | expand nodes input pending ih => simp only [restart, owing, leaves, ih]
  | select op l r phase ihl ihr => simp only [restart, owing, leaves, ihl, ihr, d.total_append]

theorem owing_eq_zero {c : Cursor} (h : c.leaves name = []) : c.owing d name = 0 := by
  induction c with
  | listed | range | buffered => rfl
  | producer other entries rest =>
    have hname : other ≠ name := by
      rintro rfl
      simp [leaves] at h
    simp only [owing, hname, ↓reduceIte]
  | append l r onRight ihl ihr =>
    obtain ⟨hl, hr⟩ := List.append_eq_nil_iff.1 h
    simp only [owing, ihl hl, ihr hr]
  | map f input ih => exact ih h
  | expand nodes input pending ih => exact ih h
  | select op l r phase ihl ihr =>
    obtain ⟨hl, hr⟩ := List.append_eq_nil_iff.1 h
    simp only [owing, ihl hl, ihr hr]

/-- What is there already is not computed by producers. -/
theorem leaves_of_materialized {c : Cursor} (h : c.isMaterialized = true) :
    c.leaves name = [] := by
  induction c with
  | listed | range | buffered => rfl
  | append l r onRight ihl ihr =>
    simp only [isMaterialized, Bool.and_eq_true] at h
    simp only [leaves, ihl h.1, ihr h.2, List.append_nil]
  | producer | map | expand | select => cases h

end Cursor

/-! ### Stores -/

/-- How often the source of a buffer can still ask the producers of a name. -/
def Buffer.owing (d : Demand) (name : String) (b : Buffer) : Nat :=
  (b.source.map fun c => c.owing d name).getD 0

namespace Store

/-- How often the sources of some buffers can still ask the producers of a name. -/
def owing (d : Demand) (name : String) (I : Finset Nat) (s : Store) : Nat :=
  ∑ i ∈ I, ((s.buffers[i]?).map fun b => b.owing d name).getD 0

/-- How often the producers of a name were asked, and can still be asked through some buffers. -/
def account (d : Demand) (name : String) (I : Finset Nat) (s : Store) : Nat :=
  d.met (s.tally name) + s.owing d name I

/-- With a buffer a set contains those that the source of the buffer reads. -/
def Closed (I : Finset Nat) (s : Store) : Prop :=
  ∀ i ∈ I, ∀ (b : Buffer) (c : Cursor), s.buffers[i]? = some b → b.source = some c → c.Within I

theorem owing_congr (h : s'.buffers = s.buffers) : s'.owing d name I = s.owing d name I := by
  simp only [owing, h]

theorem Closed.congr (hI : s.Closed I) (h : s'.buffers = s.buffers) : s'.Closed I :=
  fun i hi b c hb => hI i hi b c (h ▸ hb)

/-- Writing a buffer changes what is owing by what its source owes. -/
theorem account_setBuffer (d : Demand) (name : String) {b : Buffer} (b' : Buffer) (hi : i ∈ I)
    (hb : s.buffers[i]? = some b) :
    (s.setBuffer i b').account d name I + b.owing d name =
      s.account d name I + b'.owing d name := by
  have hrest : ∑ j ∈ I.erase i,
        (((s.setBuffer i b').buffers[j]?).map fun b => b.owing d name).getD 0 =
      ∑ j ∈ I.erase i, ((s.buffers[j]?).map fun b => b.owing d name).getD 0 :=
    Finset.sum_congr rfl fun j hj => by rw [getElem?_setBuffer_ne (Finset.ne_of_mem_erase hj)]
  have hafter := Finset.add_sum_erase I
    (fun j => (((s.setBuffer i b').buffers[j]?).map fun b => b.owing d name).getD 0) hi
  have hbefore := Finset.add_sum_erase I
    (fun j => ((s.buffers[j]?).map fun b => b.owing d name).getD 0) hi
  simp only [getElem?_setBuffer_self hb, hb, Option.map_some, Option.getD_some] at hafter hbefore
  have htally : (s.setBuffer i b').tally name = s.tally name := rfl
  simp only [account, owing, htally]
  omega

theorem Closed.setBuffer {b b' : Buffer} (hI : s.Closed I) (hb : s.buffers[i]? = some b)
    (hb' : ∀ c, b'.source = some c → c.Within I) : (s.setBuffer i b').Closed I := by
  intro j hj e c he hc
  by_cases hji : j = i
  · subst hji
    rw [getElem?_setBuffer_self hb] at he
    cases he
    exact hb' c hc
  · exact hI j hj e c ((getElem?_setBuffer_ne hji).symm.trans he) hc

/-- The set of all buffers is closed. -/
theorem Holds.closed_range (hs : s.Holds content) : s.Closed (Finset.range s.buffers.size) := by
  intro i hi b c hb hc
  have hlt : i < s.buffers.size := Finset.mem_range.1 hi
  exact ((hs.source_sound hb hc).mono (Nat.le_of_lt hlt)).within_range

/-! ### New buffers -/

/-- A buffer that is not there yet owes nothing. -/
theorem account_insert_size :
    s.account d name (insert s.buffers.size I) = s.account d name I := by
  simp only [account, owing]
  rw [Finset.sum_insert_zero]
  simp

theorem Closed.insert_size (hI : s.Closed I) : s.Closed (insert s.buffers.size I) := by
  intro j hj b c hb hc
  rcases Finset.mem_insert.1 hj with rfl | hj
  · simp at hb
  · exact (hI j hj b c hb hc).mono (Finset.subset_insert _ _)

/-- A new buffer owes what a fresh copy of its cursor can ask for. -/
theorem account_buffer (c : Cursor) :
    (s.buffer c).1.account d name (insert s.buffers.size I) =
      s.account d name I + c.restart.owing d name := by
  have hmem : s.buffers.size ∈ insert s.buffers.size I := Finset.mem_insert_self _ _
  have hold : ∑ j ∈ (insert s.buffers.size I).erase s.buffers.size,
        (((s.buffer c).1.buffers[j]?).map fun b => b.owing d name).getD 0 =
      ∑ j ∈ (insert s.buffers.size I).erase s.buffers.size,
        ((s.buffers[j]?).map fun b => b.owing d name).getD 0 := by
    refine Finset.sum_congr rfl fun j hj => ?_
    rw [Store.buffer, Array.getElem?_push, if_neg (Finset.ne_of_mem_erase hj)]
  have hafter := Finset.add_sum_erase (insert s.buffers.size I)
    (fun j => (((s.buffer c).1.buffers[j]?).map fun b => b.owing d name).getD 0) hmem
  have hbefore := Finset.add_sum_erase (insert s.buffers.size I)
    (fun j => ((s.buffers[j]?).map fun b => b.owing d name).getD 0) hmem
  have hnew : (s.buffer c).1.buffers[s.buffers.size]? = some ⟨#[], some c.restart, none⟩ :=
    Array.getElem?_push_size
  have hnone : s.buffers[s.buffers.size]? = none := Array.getElem?_eq_none (Nat.le_refl _)
  simp only [hnew, hnone, Buffer.owing, Option.map_some, Option.getD_some, Option.map_none,
    Option.getD_none] at hafter hbefore
  have htally : (s.buffer c).1.tally name = s.tally name := rfl
  rw [← account_insert_size (s := s)]
  simp only [account, owing, htally, Buffer.owing] at hold ⊢
  omega

theorem Closed.buffer {c : Cursor} (hI : s.Closed I) (hc : c.Within I) :
    (s.buffer c).1.Closed (insert s.buffers.size I) := by
  intro j hj b e hb he
  rw [Store.buffer, Array.getElem?_push] at hb
  split at hb
  · cases hb
    cases he
    exact (Cursor.within_restart.2 hc).mono (Finset.subset_insert _ _)
  · next hne =>
    have hj' : j ∈ I := (Finset.mem_insert.1 hj).resolve_left hne
    exact (hI j hj' b e hb he).mono (Finset.subset_insert _ _)

/-! ### Tallies of other names -/

theorem lookup_filter_ne {α : Type} {other : String} (h : other ≠ name) (l : List (String × α)) :
    (l.filter fun p => p.1 != name).lookup other = l.lookup other := by
  induction l with
  | nil => rfl
  | cons p l ih =>
    obtain ⟨key, a⟩ := p
    by_cases hkey : key = name
    · have hne : (other == key) = false := by simpa [hkey] using h
      simp only [List.filter_cons, hkey, bne_self_eq_false, Bool.false_eq_true, ↓reduceIte, ih]
      rw [← hkey, List.lookup_cons, hne]
    · have hkeep : (key != name) = true := by simpa using hkey
      simp only [List.filter_cons, hkeep, ↓reduceIte, List.lookup_cons, ih]

theorem tally_setTally_ne {other : String} (h : other ≠ name) (t : Tally) :
    (s.setTally name t).tally other = s.tally other := by
  have hne : (other == name) = false := by simpa using h
  simp only [setTally, tally, List.lookup_cons, hne, lookup_filter_ne h]

/-- Asking a producer for an entry, or the first time starting it, leaves other names alone. -/
theorem tally_asked_ne {other : String} (h : other ≠ name) (rest : Option (List Entry)) :
    ((if rest.isNone then s.noteRun name else s).notePull name).tally other = s.tally other := by
  rw [notePull, tally_setTally_ne h]
  split
  · rw [noteRun, tally_setTally_ne h]
  · rfl

theorem tally_asked (s : Store) (name : String) (rest : Option (List Entry)) :
    ((if rest.isNone then s.noteRun name else s).notePull name).tally name =
      ⟨(s.tally name).runs + if rest.isNone then 1 else 0, (s.tally name).pulls + 1,
        (s.tally name).produced⟩ := by
  rw [tally_notePull]
  split <;> simp only [tally_noteRun, Nat.add_zero]

theorem account_congr (hbuffers : s'.buffers = s.buffers) (htally : s'.tally name = s.tally name) :
    s'.account d name I = s.account d name I := by
  simp only [account, htally, owing_congr hbuffers]

end Store

/-! ### One step -/

namespace Cursor

variable {pull : Cursor → Store → Stepped}

/-- A step asks producers for something only as far as that was owing before. -/
structure Pays (d : Demand) (name : String) (I : Finset Nat) (c : Cursor) (s : Store)
    (r : Cursor × Store) : Prop where
  closed : r.2.Closed I
  /-- What was asked for is not owing any more. -/
  account : r.1.owing d name + r.2.account d name I ≤ c.owing d name + s.account d name I

/-- A step of a part of a cursor, beside which nothing is asked for. -/
theorem Pays.part {c c' part part' : Cursor} (k : Nat) (h : part.Pays d name I s (part', s'))
    (hc : c.owing d name = part.owing d name + k)
    (hc' : c'.owing d name = part'.owing d name + k) : c.Pays d name I s (c', s') where
  closed := h.closed
  account := by
    have haccount := h.account
    simp only at haccount ⊢
    omega

/-- A step that asks no producer and writes no buffer. -/
theorem Pays.still {c c' : Cursor} (hclosed : s.Closed I)
    (hc : c'.owing d name = c.owing d name) : c.Pays d name I s (c', s) where
  closed := hclosed
  account := by simp only [hc, Nat.le_refl]

/-- A producer is started only if that was owing, and an entry that it gives was owing. -/
theorem producer_pays {other : String} {entries : List Entry} {rest : Option (List Entry)}
    (hclosed : s.Closed I) :
    (producer other entries rest).Pays d name I s
      ((producer other entries rest).stepWith pull s).2 := by
  have hbuffers : ((if rest.isNone then s.noteRun other else s).notePull other).buffers =
      s.buffers := by
    split <;> rfl
  have htally := s.tally_asked other rest
  have hothers := fun h : name ≠ other => Store.tally_asked_ne (s := s) h rest
  simp only [stepWith]
  generalize (if rest.isNone then s.noteRun other else s).notePull other = asked at *
  have hbuffers' : (asked.noteEntry other).buffers = s.buffers := hbuffers
  by_cases hname : other = name
  · subst hname
    cases hrest : rest.getD entries with
    | nil =>
      refine ⟨hclosed.congr hbuffers, ?_⟩
      simp only [owing, ↓reduceIte, Store.account, Store.owing_congr hbuffers, htally]
      cases d with
      | start =>
        simp only [Demand.owing, Demand.met, Option.isNone_some, Bool.false_eq_true, ↓reduceIte]
        omega
      | entry =>
        simp only [Demand.owing, Demand.met, hrest, Option.getD_some]
        omega
    | cons e l =>
      refine ⟨hclosed.congr hbuffers', ?_⟩
      simp only [owing, ↓reduceIte, Store.account, Store.owing_congr hbuffers',
        Store.tally_noteEntry, htally]
      cases d with
      | start =>
        simp only [Demand.owing, Demand.met, Option.isNone_some, Bool.false_eq_true, ↓reduceIte]
        omega
      | entry =>
        simp only [Demand.owing, Demand.met, hrest, Option.getD_some, List.length_cons]
        omega
  · -- The tally of the name stays as it is, and so does what is owing.
    have hsame := hothers (Ne.symm hname)
    have hsame' : (asked.noteEntry other).tally name = s.tally name := by
      rw [Store.noteEntry, Store.tally_setTally_ne (Ne.symm hname), hsame]
    cases rest.getD entries with
    | nil =>
      refine ⟨hclosed.congr hbuffers, ?_⟩
      simp only [owing, hname, ↓reduceIte, Store.account_congr hbuffers hsame, Nat.le_refl]
    | cons e l =>
      refine ⟨hclosed.congr hbuffers', ?_⟩
      simp only [owing, hname, ↓reduceIte, Store.account_congr hbuffers' hsame', Nat.le_refl]

/-- A reader of a buffer passes on what its source asks for. -/
theorem stepBuffered_pays {pos : Nat} (hs : s.Holds content)
    (hadvances : ∀ c : Cursor, c.Sound s i → c.Advances content i s (pull c s))
    (hpays : ∀ c : Cursor, c.Sound s i → c.Within I → c.Pays d name I s (pull c s).2)
    (hc : (buffered i pos).Sound s n) (hi : i ∈ I) (hclosed : s.Closed I) :
    (buffered i pos).Pays d name I s (stepBuffered pull i pos s).2 := by
  obtain ⟨-, b, hb, -⟩ := hc
  unfold stepBuffered
  simp only [hb]
  split
  · exact .still hclosed rfl
  · split
    · exact .still hclosed rfl
    · split
      · exact .still hclosed rfl
      · exact .still hclosed rfl
      · next c herror hsource =>
        have hsound := hs.source_sound hb hsource
        have hadv := hadvances c hsound
        have hpay := hpays c hsound (hclosed i hi b c hb hsource)
        rcases hr : pull c s with ⟨out, c', s'⟩
        rw [hr] at hadv hpay
        have hsame : s'.buffers[i]? = some b := (hadv.follows.above i (Nat.le_refl i)).trans hb
        have hbefore : b.owing d name = c.owing d name := by simp [Buffer.owing, hsource]
        -- The buffer gets a source that owes what the step has left of it, or none at all.
        have hwrite (b' : Buffer) (pos' : Nat) (hb' : b'.source = some c' ∨ b'.source = none) :
            (buffered i pos).Pays d name I s (buffered i pos', s'.setBuffer i b') := by
          have howing : b'.owing d name ≤ c'.owing d name := by
            rcases hb' with hb' | hb' <;> simp [Buffer.owing, hb']
          refine ⟨hpay.closed.setBuffer hsame fun c'' hc'' => ?_, ?_⟩
          · rcases hb' with hb' | hb' <;> rw [hb'] at hc'' <;> cases hc''
            exact within_of_restart_eq hadv.restart (hclosed i hi b c hb hsource)
          · have haccount := hpay.account
            have hset := Store.account_setBuffer d name b' hi hsame
            simp only [owing] at haccount ⊢
            omega
        cases out with
        | yield e =>
          cases e with
          | ok x => exact hwrite _ _ (.inl rfl)
          | error e => exact hwrite _ _ (.inr rfl)
        | skip => exact hwrite _ _ (.inl rfl)
        | done => exact hwrite _ _ (.inr rfl)

/-- A step of a cursor, if the steps of the sources of buffers below it pay. -/
theorem stepWith_pays {c : Cursor}
    (hadvances : ∀ i < n, ∀ s, s.Holds content → ∀ c : Cursor, c.Sound s i →
      c.Advances content i s (pull c s))
    (hpays : ∀ i < n, ∀ s, s.Holds content → s.Closed I → ∀ c : Cursor, c.Sound s i → c.Within I →
      c.Pays d name I s (pull c s).2)
    (hs : s.Holds content) (hclosed : s.Closed I) (hc : c.Sound s n) (hin : c.Within I) :
    c.Pays d name I s (c.stepWith pull s).2 := by
  induction c generalizing s with
  | listed items rest =>
    cases rest with
    | nil => exact .still hclosed rfl
    | cons x rest => exact .still hclosed rfl
  | range low high next =>
    cases next with
    | none => exact .still hclosed rfl
    | some k => exact .still hclosed rfl
  | producer other entries rest => exact producer_pays hclosed
  | buffered i pos =>
    rw [stepWith_buffered]
    exact stepBuffered_pays hs (hadvances i hc.1 s hs) (hpays i hc.1 s hs hclosed) hc hin hclosed
  | append l r onRight ihl ihr =>
    cases onRight with
    | false =>
      have hl := ihl hs hclosed hc.1 hin.1
      have hladv := stepWith_advances hadvances hs hc.1
      rcases hstep : l.stepWith pull s with ⟨out, l', s'⟩
      rw [hstep] at hl hladv
      cases out with
      | yield e =>
        simp only [stepWith, hstep]
        exact hl.part (r.owing d name) rfl rfl
      | skip =>
        simp only [stepWith, hstep]
        exact hl.part (r.owing d name) rfl rfl
      | done =>
        -- Both parts take a step.
        have hr := ihr hladv.follows.holds hl.closed (hc.2.later hladv.follows.grows) hin.2
        rcases hstep' : r.stepWith pull s' with ⟨out', r', s''⟩
        rw [hstep'] at hr
        simp only [stepWith, hstep, hstep']
        refine ⟨hr.closed, ?_⟩
        have hfirst := hl.account
        have hsecond := hr.account
        simp only [owing] at hfirst hsecond ⊢
        omega
    | true =>
      have hr := ihr hs hclosed hc.2 hin.2
      simp only [stepWith]
      exact hr.part (l.owing d name) (Nat.add_comm _ _) (Nat.add_comm _ _)
  | map f input ih =>
    have h := ih hs hclosed hc hin
    rcases hstep : input.stepWith pull s with ⟨out, input', s'⟩
    rw [hstep] at h
    cases out <;> simp only [stepWith, hstep] <;> exact h.part 0 rfl rfl
  | expand nodes input pending ih =>
    cases pending with
    | cons a pending => exact .still hclosed rfl
    | nil =>
      have h := ih hs hclosed hc hin
      rcases hstep : input.stepWith pull s with ⟨out, input', s'⟩
      rw [hstep] at h
      rcases out with (e | k | a) | _ | _
      case yield.ok.node =>
        simp only [stepWith, hstep]
        cases nodes.values k <;> exact h.part 0 rfl rfl
      all_goals
        simp only [stepWith, hstep]
        exact h.part 0 rfl rfl
  | select op l r phase ihl ihr =>
    cases phase with
    | gathering found =>
      have hr := ihr hs hclosed hc.2 hin.2
      rcases hstep : r.stepWith pull s with ⟨out, r', s'⟩
      rw [hstep] at hr
      cases out <;> simp only [stepWith, hstep] <;>
        exact hr.part (l.owing d name) (Nat.add_comm _ _) (Nat.add_comm _ _)
    | choosing other seen =>
      have hl := ihl hs hclosed hc.1 hin.1
      rcases hstep : l.stepWith pull s with ⟨out, l', s'⟩
      rw [hstep] at hl
      cases out <;> simp only [stepWith, hstep] <;> exact hl.part (r.owing d name) rfl rfl
    | draining =>
      have hl := ihl hs hclosed hc.1 hin.1
      rcases hstep : l.stepWith pull s with ⟨out, l', s'⟩
      rw [hstep] at hl
      cases out <;> simp only [stepWith, hstep] <;> exact hl.part (r.owing d name) rfl rfl
    | closed => exact .still hclosed rfl

/-- A step of a cursor with a depth that reaches all buffers that it reads. -/
theorem stepAt_pays (d : Demand) (name : String) {c : Cursor} {depth : Nat}
    (hs : s.Holds content) (hclosed : s.Closed I) (hc : c.Sound s n) (hin : c.Within I)
    (hdepth : n ≤ depth) :
    c.Pays d name I s (stepAt depth c s).2 := by
  induction depth generalizing n s c with
  | zero =>
    have hn : n = 0 := by omega
    subst hn
    exact stepWith_pays (fun i hi => absurd hi (Nat.not_lt_zero i))
      (fun i hi => absurd hi (Nat.not_lt_zero i)) hs hclosed hc hin
  | succ depth ih =>
    refine stepWith_pays (fun i hi s hs c hc => ?_) (fun i hi s hs hclosed c hc hin => ?_)
      hs hclosed hc hin
    · exact stepAt_advances hs hc (by omega)
    · exact ih hs hclosed hc hin (by omega)

/-! ### Readings -/

/-- What a cursor that is asked for an entry `k` times leads to. -/
def nexts : Nat → Cursor → Store → Cursor × Store
  | 0, c, s => (c, s)
  | k + 1, c, s => nexts k (c.next s).2.1 (c.next s).2.2

theorem nextWithin_pays (d : Demand) (name : String) {c : Cursor} (steps : Nat)
    (hs : s.Holds content) (hclosed : s.Closed I) (hc : c.Sound s s.buffers.size)
    (hin : c.Within I) :
    c.Pays d name I s (nextWithin steps c s).2 := by
  induction steps generalizing c s with
  | zero => exact .still hclosed rfl
  | succ steps ih =>
    have hadv := step_advances hs hc
    have hpay := stepAt_pays d name hs hclosed hc hin (Nat.le_refl _)
    rw [← step] at hpay
    rcases hr : c.step s with ⟨out, c', s'⟩
    rw [hr] at hadv hpay
    cases out with
    | yield e =>
      simp only [nextWithin, hr]
      exact hpay
    | done =>
      simp only [nextWithin, hr]
      exact hpay
    | skip =>
      have hsound : c'.Sound s' s'.buffers.size := hadv.follows.size ▸ hadv.sound
      have hmore := ih hadv.follows.holds hpay.closed hsound
        (within_of_restart_eq hadv.restart hin)
      simp only [nextWithin, hr]
      exact ⟨hmore.closed, Nat.le_trans hmore.account hpay.account⟩

theorem nexts_reads {c : Cursor} (k : Nat) (hs : s.Holds content)
    (hc : c.Sound s s.buffers.size) :
    s.Follows content s.buffers.size (c.nexts k s).2 ∧
      (c.nexts k s).1.Sound (c.nexts k s).2 (c.nexts k s).2.buffers.size ∧
      (c.nexts k s).1.restart = c.restart := by
  induction k generalizing c s with
  | zero => exact ⟨.refl hs, hc, rfl⟩
  | succ k ih =>
    have hread := next_reads hs hc
    obtain ⟨hfollows, hsound, hrestart⟩ := ih hread.follows.holds hread.sound
    exact ⟨hread.follows.andThen hfollows, hsound, hrestart.trans hread.restart⟩

/-- Whatever a cursor is asked for, it was owing before. -/
theorem nexts_pays (d : Demand) (name : String) {c : Cursor} (k : Nat) (hs : s.Holds content)
    (hclosed : s.Closed I) (hc : c.Sound s s.buffers.size) (hin : c.Within I) :
    c.Pays d name I s (c.nexts k s) := by
  induction k generalizing c s with
  | zero => exact .still hclosed rfl
  | succ k ih =>
    have hread := next_reads hs hc
    have hpay := nextWithin_pays d name (c.stepsLeft s + 1) hs hclosed hc hin
    rw [← next] at hpay
    have hmore := ih hread.follows.holds hpay.closed hread.sound
      (within_of_restart_eq hread.restart hin)
    exact ⟨hmore.closed, Nat.le_trans hmore.account hpay.account⟩

end Cursor

/-! ### Readers behind buffers -/

/-- A later store in which the account did not grow. -/
structure Store.KeepsAccount (content : Nat → List Entry) (name : String) (I : Finset Nat)
    (s s' : Store) : Prop where
  follows : s.Follows content s.buffers.size s'
  closed : s'.Closed I
  account : ∀ d, s'.account d name I ≤ s.account d name I

namespace Store.KeepsAccount

theorem refl (hs : s.Holds content) (hclosed : s.Closed I) : s.KeepsAccount content name I s :=
  ⟨.refl hs, hclosed, fun _ => Nat.le_refl _⟩

theorem trans (h : s.KeepsAccount content name I s') (h' : s'.KeepsAccount content name I s'') :
    s.KeepsAccount content name I s'' where
  follows := h.follows.andThen h'.follows
  closed := h'.closed
  account d := Nat.le_trans (h'.account d) (h.account d)

end Store.KeepsAccount

namespace Cursor

/-- A cursor that reads the producers of a name only through buffers of a set. -/
structure BehindBuffers (content : Nat → List Entry) (name : String) (I : Finset Nat) (s : Store)
    (c : Cursor) : Prop where
  holds : s.Holds content
  closed : s.Closed I
  sound : c.Sound s s.buffers.size
  leaves : c.leaves name = []
  within : c.Within I

namespace BehindBuffers

variable {c : Cursor}

theorem restart (h : c.BehindBuffers content name I s) :
    c.restart.BehindBuffers content name I s where
  holds := h.holds
  closed := h.closed
  sound := h.sound.restart
  leaves := by rw [leaves_restart, h.leaves]
  within := within_restart.2 h.within

theorem later (h : c.BehindBuffers content name I s) (hs : s.KeepsAccount content name I s') :
    c.BehindBuffers content name I s' where
  holds := hs.follows.holds
  closed := hs.closed
  sound := hs.follows.size ▸ h.sound.later hs.follows.grows
  leaves := h.leaves
  within := h.within

/-- Reading it only moves what is owing to what was asked for. -/
theorem nexts (h : c.BehindBuffers content name I s) (k : Nat) :
    (c.nexts k s).1.BehindBuffers content name I (c.nexts k s).2 ∧
      s.KeepsAccount content name I (c.nexts k s).2 := by
  obtain ⟨hfollows, hsound, hrestart⟩ := nexts_reads k h.holds h.sound
  have hpay (d : Demand) := nexts_pays d name k h.holds h.closed h.sound h.within
  have hclosed := (hpay .start).closed
  refine ⟨⟨hfollows.holds, hclosed, hsound, ?_, within_of_restart_eq hrestart h.within⟩,
    hfollows, hclosed, fun d => ?_⟩
  · rw [leaves_of_restart_eq hrestart, h.leaves]
  · have haccount := (hpay d).account
    rw [owing_eq_zero h.leaves] at haccount
    omega

end BehindBuffers

end Cursor

/-- All handles of a pool read the producers of a name only through buffers of a set. -/
structure Pool.BehindBuffers (content : Nat → List Entry) (name : String) (I : Finset Nat)
    (p : Pool) : Prop where
  holds : p.store.Holds content
  closed : p.store.Closed I
  handle : ∀ h ∈ p.handles, h.cursor.BehindBuffers content name I p.store

namespace Pool.BehindBuffers

variable {p : Pool}

theorem move (h : p.BehindBuffers content name I) (m : Move) :
    (p.move m).BehindBuffers content name I ∧
      p.store.KeepsAccount content name I (p.move m).store := by
  cases m with
  | clone i =>
    simp only [Pool.move]
    cases hi : p.handles[i]? with
    | none => exact ⟨h, .refl h.holds h.closed⟩
    | some g =>
      have hg := (h.handle g (List.mem_of_getElem? hi)).restart
      refine ⟨⟨h.holds, h.closed, fun g' hg' => ?_⟩, .refl h.holds h.closed⟩
      rcases List.mem_append.1 hg' with hold | hnew
      · exact h.handle g' hold
      · rw [List.mem_singleton.1 hnew]
        exact hg
  | next i =>
    simp only [Pool.move, Pool.next]
    cases hi : p.handles[i]? with
    | none => exact ⟨h, .refl h.holds h.closed⟩
    | some g =>
      obtain ⟨hread, hkeeps⟩ := (h.handle g (List.mem_of_getElem? hi)).nexts 1
      refine ⟨⟨hkeeps.follows.holds, hkeeps.closed, fun g' hg' => ?_⟩, hkeeps⟩
      rcases List.mem_or_eq_of_mem_set hg' with hold | rfl
      · exact (h.handle g' hold).later hkeeps
      · exact hread

/-- Copies and readings, however many and in whatever order, ask for nothing that was not owing
    before. -/
theorem moveAll (h : p.BehindBuffers content name I) (moves : List Move) :
    p.store.KeepsAccount content name I (p.moveAll moves).store := by
  induction moves generalizing p with
  | nil => exact .refl h.holds h.closed
  | cons m moves ih =>
    obtain ⟨hmove, hkeeps⟩ := h.move m
    exact hkeeps.trans (ih hmove)

end Pool.BehindBuffers

end XPathData
