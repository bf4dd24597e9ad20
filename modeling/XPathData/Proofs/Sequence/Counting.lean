import XPathData.Proofs.Sequence.Reading

/-! # Counting the items of a sequence

  Coercions look at the number of items before they look at the items. A number that is known
  without reading is the right one as long as it fits into 64 bits; the gate reads as far as
  the occurrence needs it, and may meet an error on the way.

  * `Cursor.length_of_exactLength?` — a number that is known without reading
  * `Occurrence.verdict` — what counting finds out about entries
  * `Stream.Lists.gate` — the gate gives that verdict
-/

namespace XPathData

variable {content : Nat → List Entry} {s s' : Store} {n : Nat} {entries : List Entry}

/-! ### Numbers known without reading -/

namespace Signed64

@[simp] theorem length_upTo (low high : Signed64) :
    (upTo low high).length = (high.val - low.val + 1).toNat := by
  simp [upTo]

end Signed64

namespace Cursor

/-- A number of entries that is known without reading is that of a fresh copy, as long as it
    takes 64 bits: counts are cut down or wrap around beyond. -/
theorem length_of_exactLength? {c : Cursor} (hs : s.Holds content)
    (hlt : (c.restart.remaining content).length < countLimit) (h : c.exactLength? s = some n) :
    (c.restart.remaining content).length = n := by
  induction c generalizing n with
  | listed items rest =>
    simp only [exactLength?, Option.some.injEq] at h
    simp only [restart, ofList, remaining, List.length_map, h]
  | range low high next =>
    simp only [exactLength?, rangeLength, capCount, Option.some.injEq] at h
    simp only [restart, ofRange, remaining, List.length_map] at hlt ⊢
    split at hlt <;> rename_i hle
    · simp only [hle, ↓reduceIte, Option.map_some, Option.getD_some, Signed64.length_upTo] at hlt ⊢
      omega
    · simp only [hle, ↓reduceIte, Option.map_none, Option.getD_none, List.length_nil]
      omega
  | producer name list rest => simp [exactLength?] at h
  | buffered b pos =>
    simp only [exactLength?] at h
    split at h
    · next items hb =>
      cases h
      have hall := (hs b _ hb).ended rfl
      simp [restart, remaining, hall]
    · cases h
  | append l r onRight ihl ihr =>
    simp only [exactLength?] at h
    split at h
    · next m k hm hk =>
      cases h
      simp only [restart, remaining, Bool.false_eq_true, ↓reduceIte, List.length_append] at hlt ⊢
      -- The sum of both numbers does not wrap around, since the whole fits into 64 bits.
      have hl := ihl (by omega) hm
      have hr := ihr (by omega) hk
      rw [hl, hr] at hlt ⊢
      exact (Nat.mod_eq_of_lt hlt).symm
    · cases h
  | map f input ih =>
    simp only [restart, remaining, List.length_map] at hlt ⊢
    exact ih hlt h
  | expand nodes input pending => simp [exactLength?] at h
  | select op l r phase => simp [exactLength?] at h

end Cursor

/-- A stream of items is empty if it has none, whether that is known or has to be read. -/
theorem Stream.Lists.isEmpty {t : Stream} {items : List Item}
    (h : t.Lists content s (items.map .ok)) (hlt : items.length < countLimit) :
    ∃ s', t.isEmpty s = (.ok items.isEmpty, s') ∧ s.Follows content s.buffers.size s' := by
  cases hexact : t.cursor.exactLength? s with
  | some n =>
    have hlength := Cursor.length_of_exactLength? h.holds
      (by rw [h.whole, List.length_map]; exact hlt) hexact
    rw [h.whole, List.length_map] at hlength
    refine ⟨s, ?_, .refl h.holds⟩
    simp only [Stream.isEmpty, hexact, ← hlength]
    cases items <;> rfl
  | none =>
    cases items with
    | nil =>
      obtain ⟨s', hfirst, hfollows⟩ := h.first_nil
      refine ⟨s', ?_, hfollows⟩
      simp only [Stream.isEmpty, hexact]
      rw [Fetch.bind_ok hfirst]
      rfl
    | cons x items =>
      obtain ⟨s', hfirst, hfollows⟩ := h.first_ok
      refine ⟨s', ?_, hfollows⟩
      simp only [Stream.isEmpty, hexact]
      rw [Fetch.bind_ok hfirst]
      rfl

/-- The question leads to a later store, whatever the answer is. -/
theorem Stream.Lists.isEmpty_follows {t : Stream} (h : t.Lists content s entries) :
    s.Follows content s.buffers.size (t.isEmpty s).2 := by
  cases hexact : t.cursor.exactLength? s with
  | some n =>
    simp only [Stream.isEmpty, hexact]
    exact .refl h.holds
  | none =>
    simp only [Stream.isEmpty, hexact]
    match entries with
    | [] =>
      obtain ⟨s', hfirst, hfollows⟩ := h.first_nil
      rw [Fetch.bind_ok hfirst]
      exact hfollows
    | .ok x :: l =>
      obtain ⟨s', hfirst, hfollows⟩ := h.first_ok
      rw [Fetch.bind_ok hfirst]
      exact hfollows
    | .error e :: l =>
      obtain ⟨s', hfirst, hfollows⟩ := h.first_error
      rw [Fetch.bind_error hfirst]
      exact hfollows

/-! ### Verdicts -/

/-- What counting finds out about an occurrence. -/
inductive Verdict where
  /-- The number of items is allowed, as far as that needs to be known. -/
  | accepts
  /-- The number of items is not allowed. -/
  | refuses
  /-- An error was met before the number was known. -/
  | fails (e : Error)

namespace Occurrence

/-- What counting finds out: an item shows that there is one, and only where one is the most a
    second one is looked for. -/
def verdict (occ : Occurrence) : List Entry → Verdict
  | [] => if occ.allowsEmpty then .accepts else .refuses
  | .error e :: _ => .fails e
  | .ok _ :: l =>
    if occ.allowsMany then .accepts
    else match l with
      | [] => .accepts
      | .error e :: _ => .fails e
      | .ok _ :: _ => .refuses

/-- Nothing behind the first error counts. -/
theorem verdict_upToError (occ : Occurrence) (entries : List Entry) :
    occ.verdict (upToError entries) = occ.verdict entries := by
  match entries with
  | [] | .error _ :: _ | [.ok _] | .ok _ :: .error _ :: _ | .ok _ :: .ok _ :: _ => rfl

/-- Items without errors are counted rightly. -/
theorem verdict_map_ok (occ : Occurrence) (items : List Item) :
    occ.verdict (items.map .ok) = if occ.admits items.length then .accepts else .refuses := by
  match items with
  | [] => cases occ <;> rfl
  | [x] => cases occ <;> rfl
  | x :: y :: l =>
    cases occ <;> simp [verdict, allowsMany, admits]

/-- Where counting accepts entries without errors, their number is allowed. -/
theorem admits_of_verdict {occ : Occurrence} {items : List Item}
    (h : occ.verdict (items.map .ok) = .accepts) : occ.admits items.length = true := by
  rw [verdict_map_ok] at h
  by_contra hno
  simp [hno] at h

end Occurrence

/-! ### The gate -/

namespace Stream

variable {t u : Stream}

/-- The outcome of the gate agrees with a verdict. -/
def GatedAs (entries : List Entry) (code : ErrorCode) (r : Except Error Stream × Store) :
    Verdict → Prop
  | .accepts => ∃ content u entries', r.1 = .ok u ∧ u.Fresh ∧ u.Lists content r.2 entries' ∧
      upToError entries' = upToError entries
  | .refuses => ∃ e, r.1 = .error e ∧ e.code = code.name ∧ e.kind = .cardinalityViolation
  | .fails e => r.1 = .error e

/-- The gate counts as far as it must; what it lets pass is read again from the beginning. -/
theorem Lists.gate (h : t.Lists content s entries) (occ : Occurrence) (code : ErrorCode) :
    GatedAs entries code (t.gate occ code s) (occ.verdict entries) := by
  obtain ⟨content', s₁, b, entries', hbuffered, hfresh, hb, hagree⟩ := h.buffered
  -- The verdict on the buffered copy is the same one, and the gate reads that copy.
  rw [← occ.verdict_upToError, ← hagree, occ.verdict_upToError]
  unfold Stream.gate
  rw [Fetch.bind_ok hbuffered]
  match entries' with
  | [] =>
    obtain ⟨c', s₂, hfetch, hfollows⟩ := hb.left.fetch_nil
    rw [Fetch.bind_ok hfetch]
    simp only [Occurrence.verdict]
    split
    · exact ⟨content', empty, [], rfl, rfl, .ofList hfollows.holds [], hagree⟩
    · exact ⟨_, rfl, rfl, rfl⟩
  | .error e :: l =>
    obtain ⟨s₂, hfetch, hfollows⟩ := hb.left.fetch_error
    rw [Fetch.bind_error hfetch]
    rfl
  | .ok x :: l =>
    obtain ⟨c', s₂, hfetch, hleft, hfollows⟩ := hb.left.fetch_ok
    rw [Fetch.bind_ok hfetch]
    simp only [Occurrence.verdict]
    split
    · exact ⟨content', b, _, rfl, hfresh, hb.later hfollows, hagree⟩
    · match l with
      | [] =>
        obtain ⟨c'', s₃, hfetch', hfollows'⟩ := hleft.fetch_nil
        rw [Fetch.bind_ok hfetch']
        exact ⟨content', b, _, rfl, hfresh, hb.later (hfollows.andThen hfollows'), hagree⟩
      | .error e :: l =>
        obtain ⟨s₃, hfetch', -⟩ := hleft.fetch_error
        rw [Fetch.bind_error hfetch']
        rfl
      | .ok y :: l =>
        obtain ⟨c'', s₃, hfetch', -, -⟩ := hleft.fetch_ok
        rw [Fetch.bind_ok hfetch']
        exact ⟨_, rfl, rfl, rfl⟩

end Stream

end XPathData
