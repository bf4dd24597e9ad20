import XPathData.Library.Value
import XPathData.Proofs.Atomic.TwoKeys

/-! # Distinct values

  The values of a sequence are gone through once, with the keys that were seen before. A value is
  kept where its key is new, so that what is kept is a part of the sequence in its order, and
  every value that is left out has the key of one that was kept before it. Two equal values are
  kept both where they have two keys.

  * `Library.Keeps` — what is kept of a sequence, beside the keys seen before
  * `Library.distinctBeside_keeps` — one pass over a sequence
  * `Library.distinct_values_lose_nothing` — every value is equal to one that is kept
  * `Library.distinct_values_repeat_two_keys` — the equal values that are kept both
-/

namespace XPathData.Library

open Atomic

variable {ctx : ValueContext} {seen : List EqualityKey} {entries kept : List (Atomic × Nat)}
  {k : EqualityKey}

/-! ### What is kept -/

/-- Of the values with their positions in `entries` those in `kept` are kept: some of them, in
    their order, with new and different keys, and each value has the key of one that was kept at
    its position or earlier, unless its key had been seen. -/
structure Keeps (ctx : ValueContext) (seen : List EqualityKey)
    (entries kept : List (Atomic × Nat)) : Prop where
  sublist : kept.Sublist entries
  apart : kept.Pairwise fun p q => EqualityKey.of p.1 ctx ≠ EqualityKey.of q.1 ctx
  fresh : ∀ p ∈ kept, ∀ k ∈ seen, EqualityKey.of p.1 ctx ≠ .ok k
  covered : ∀ p ∈ entries, (∃ k ∈ seen, EqualityKey.of p.1 ctx = .ok k) ∨
    ∃ q ∈ kept, q.2 ≤ p.2 ∧ EqualityKey.of q.1 ctx = EqualityKey.of p.1 ctx

namespace Keeps

theorem nil : Keeps ctx seen [] [] :=
  ⟨List.Sublist.refl [], List.Pairwise.nil, by simp, by simp⟩

/-- A value with a key that was seen is left out. -/
theorem skip {p : Atomic × Nat} (h : Keeps ctx seen entries kept)
    (hp : EqualityKey.of p.1 ctx = .ok k) (hk : k ∈ seen) : Keeps ctx seen (p :: entries) kept where
  sublist := h.sublist.cons p
  apart := h.apart
  fresh := h.fresh
  covered := by
    intro q hq
    rcases List.mem_cons.1 hq with rfl | hq
    · exact .inl ⟨k, hk, hp⟩
    · exact h.covered q hq

/-- A value with a new key is kept, and its key is seen from there on. -/
theorem keep {p : Atomic × Nat} (h : Keeps ctx (k :: seen) entries kept)
    (hp : EqualityKey.of p.1 ctx = .ok k) (hk : k ∉ seen) (hle : ∀ q ∈ entries, p.2 ≤ q.2) :
    Keeps ctx seen (p :: entries) (p :: kept) where
  sublist := h.sublist.cons_cons p
  apart := by
    refine List.Pairwise.cons ?_ h.apart
    intro q hq heq
    exact h.fresh q hq k (List.mem_cons_self) (heq ▸ hp)
  fresh := by
    intro q hq k' hk' hkey
    rcases List.mem_cons.1 hq with rfl | hq
    · rw [hp] at hkey
      exact hk (Except.ok.inj hkey ▸ hk')
    · exact h.fresh q hq k' (List.mem_cons_of_mem k hk') hkey
  covered := by
    intro q hq
    rcases List.mem_cons.1 hq with rfl | hq
    · exact .inr ⟨q, List.mem_cons_self, le_rfl, rfl⟩
    · rcases h.covered q hq with ⟨k', hk', hkey⟩ | ⟨r, hr, hrq, hkey⟩
      · rcases List.mem_cons.1 hk' with rfl | hk'
        · -- The key is that of the value kept just now.
          exact .inr ⟨p, List.mem_cons_self, hle q hq, by rw [hp, hkey]⟩
        · exact .inl ⟨k', hk', hkey⟩
      · exact .inr ⟨r, List.mem_cons_of_mem p hr, hrq, hkey⟩

end Keeps

/-! ### One pass -/

/-- One pass over values that all have keys. -/
theorem distinctBeside_keeps (seen : List EqualityKey) (l : List Atomic) (n : Nat)
    (h : ∀ a ∈ l, ∃ k, EqualityKey.of a ctx = .ok k) :
    ∃ kept, Keeps ctx seen (l.zipIdx n) kept ∧
      distinctBeside ctx seen l = .ok (kept.map Prod.fst) := by
  -- The keys seen and the position change on the way, and every statement is about the rest.
  induction l generalizing seen n with
  | nil => exact ⟨[], .nil, rfl⟩
  | cons a l ih =>
    obtain ⟨k, hk⟩ := h a List.mem_cons_self
    have hrest : ∀ b ∈ l, ∃ k, EqualityKey.of b ctx = .ok k :=
      fun b hb => h b (List.mem_cons_of_mem a hb)
    unfold distinctBeside
    rw [hk, List.zipIdx_cons]
    show ∃ kept, _ ∧ (if seen.contains k then _ else _) = _
    by_cases hseen : k ∈ seen
    · obtain ⟨kept, hkept, hresult⟩ := ih seen (n + 1) hrest
      refine ⟨kept, hkept.skip hk hseen, ?_⟩
      rw [if_pos (List.contains_iff_mem.2 hseen)]
      exact hresult
    · obtain ⟨kept, hkept, hresult⟩ := ih (k :: seen) (n + 1) hrest
      have hle : ∀ q ∈ l.zipIdx (n + 1), n ≤ q.2 := by
        intro q hq
        have := List.le_snd_of_mem_zipIdx hq
        omega
      refine ⟨(a, n) :: kept, hkept.keep hk hseen hle, ?_⟩
      rw [if_neg (mt List.contains_iff_mem.1 hseen), hresult]
      rfl

/-! ### The function -/

/-- The atomic values of atomic items are these values. -/
theorem atomizeAll_values (F : Forest) (values : List Atomic) :
    atomizeAll F (values.map .atomic) = .ok values := by
  have hmap : (values.map Item.atomic).mapM (Item.atomize F) = .ok (values.map ([·])) := by
    induction values with
    | nil => rfl
    | cons a values ih =>
      rw [List.map_cons, List.mapM_cons, ih]
      rfl
  unfold atomizeAll
  rw [hmap]
  show Except.ok (values.map ([·])).flatten = _
  rw [← List.flatMap_def, List.flatMap_singleton']

theorem atoms_values (call : CallContext) (values : List Atomic) :
    Argument.atoms (values.map .atomic) call = .ok values := by
  show (liftM (atomizeAll call.forest (values.map .atomic)) : Call _) call = _
  rw [atomizeAll_values]
  rfl

theorem distinctValues_eq (call : CallContext) (values : List Atomic) :
    distinctValues (values.map .atomic) call =
      (distinctBeside call.values [] values).map (List.map .atomic) := by
  show (Argument.atoms (values.map .atomic) call >>= fun l =>
    distinctBeside call.values [] l >>= fun r => pure (r.map Item.atomic)) = _
  rw [atoms_values]
  cases h : distinctBeside call.values [] values with
  | ok r =>
    show (distinctBeside call.values [] values >>= fun r => pure (r.map Item.atomic)) = _
    rw [h]
    rfl
  | error e =>
    show (distinctBeside call.values [] values >>= fun r => pure (r.map Item.atomic)) = _
    rw [h]
    rfl

/-- Of values that are neither floats nor doubles, and whose times stay in the calendar, the
    function keeps a part in their order, with different keys, and every value is equal to one
    that is kept at its own position or earlier. Two values with one key are always equal. -/
theorem distinct_values_lose_nothing (call : CallContext) (values : List Atomic)
    (h : ∀ a ∈ values, a.isExact = true ∧ a.staysInCalendar call.values = true) :
    (∃ kept : List (Atomic × Nat), kept.Sublist values.zipIdx ∧
      distinctValues (values.map .atomic) call = .ok (kept.map fun p => .atomic p.1) ∧
      (kept.Pairwise fun p q =>
        EqualityKey.of p.1 call.values ≠ EqualityKey.of q.1 call.values) ∧
      ∀ p ∈ values.zipIdx, ∃ q ∈ kept, q.2 ≤ p.2 ∧
        compareBy .eq p.1 q.1 call.values = .ok true) ∧
    ∀ a ∈ values, ∀ b ∈ values,
      EqualityKey.of a call.values = EqualityKey.of b call.values →
        compareBy .eq a b call.values = .ok true := by
  have hkeys : ∀ a ∈ values, ∃ k, EqualityKey.of a call.values = .ok k :=
    fun a ha => EqualityKey.exists_of (h a ha).2
  have hequal : ∀ a ∈ values, ∀ b ∈ values,
      EqualityKey.of a call.values = EqualityKey.of b call.values →
        compareBy .eq a b call.values = .ok true := by
    intro a ha b hb hkey
    obtain ⟨k, hk⟩ := hkeys a ha
    exact EqualityKey.equal_of_same_key (h a ha).1 (h b hb).1 hk (hkey ▸ hk)
  refine ⟨?_, hequal⟩
  obtain ⟨kept, hkept, hresult⟩ := distinctBeside_keeps [] values 0 hkeys
  refine ⟨kept, hkept.sublist, ?_, hkept.apart, ?_⟩
  · rw [distinctValues_eq, hresult]
    exact congrArg Except.ok (List.map_map ..)
  · intro p hp
    rcases hkept.covered p hp with ⟨k, hk, -⟩ | ⟨q, hq, hle, hkey⟩
    · cases hk
    · have hpv : p.1 ∈ values := List.fst_mem_of_mem_zipIdx hp
      have hqv : q.1 ∈ values := List.fst_mem_of_mem_zipIdx (hkept.sublist.subset hq)
      exact ⟨q, hq, hle, hequal p.1 hpv q.1 hqv hkey.symm⟩

/-- One, a tenth in two forms and a text in two types; of the dates the second is the first in
    another timezone. -/
theorem distinct_values_lose_nothing_repeated :
    let call : CallContext := ⟨.empty .words, .standard⟩
    let values : List Atomic :=
      [.int ⟨1, by decide, by decide⟩, .decimal ⟨1, 1, by decide, by decide⟩,
        .decimal ⟨10, 2, by decide, by decide⟩, .str "1", .untyped "1",
        .date ⟨2024, 5, 1, by decide, by decide, by decide⟩ none,
        .date ⟨2024, 5, 1, by decide, by decide, by decide⟩ (some .utc)]
    (∀ a ∈ values, a.isExact = true ∧ a.staysInCalendar call.values = true) ∧
      ∃ kept : List (Atomic × Nat), kept.Sublist values.zipIdx ∧
        distinctValues (values.map .atomic) call = .ok (kept.map fun p => .atomic p.1) ∧
        ∃ q ∈ kept, q.2 ≤ 4 ∧ compareBy .eq (.untyped "1") q.1 call.values = .ok true := by
  intro call values
  have h : ∀ a ∈ values, a.isExact = true ∧ a.staysInCalendar call.values = true := by
    decide
  obtain ⟨kept, hsub, hresult, -, hequal⟩ := (distinct_values_lose_nothing call values h).1
  have hmem : (Atomic.untyped "1", 4) ∈ values.zipIdx := by decide
  exact ⟨h, kept, hsub, hresult, hequal _ hmem⟩

/-! ### Equal values that are kept -/

/-- A pass that succeeds has found the keys of all values. -/
theorem exists_of_distinctBeside {l result : List Atomic}
    (h : distinctBeside ctx seen l = .ok result) : ∀ a ∈ l, ∃ k, EqualityKey.of a ctx = .ok k := by
  induction l generalizing seen result with
  | nil => simp
  | cons a l ih =>
    unfold distinctBeside at h
    cases hk : EqualityKey.of a ctx with
    | error e =>
      rw [hk] at h
      cases h
    | ok k =>
      rw [hk] at h
      replace h : (if seen.contains k then distinctBeside ctx seen l
        else (distinctBeside ctx (k :: seen) l).map (a :: ·)) = .ok result := h
      have hrest : ∀ b ∈ l, ∃ k, EqualityKey.of b ctx = .ok k := by
        split at h
        · exact ih h
        · obtain ⟨r, hr, -⟩ := Outcome.of_map_ok h
          exact ih hr
      intro b hb
      rcases List.mem_cons.1 hb with rfl | hb
      · exact ⟨k, hk⟩
      · exact hrest b hb

/-- Of values that casts make from texts, floats and doubles left out, equal ones have one key
    except in the three cases, and in a result of the function only these are equal. -/
theorem distinct_values_repeat_two_keys (call : CallContext) (values : List Atomic)
    (h : ∀ a ∈ values, a.FromText ∧ a.isExact = true) :
    (∀ a ∈ values, ∀ b ∈ values, compareBy .eq a b call.values = .ok true →
      ∃ k l, EqualityKey.of a call.values = .ok k ∧ EqualityKey.of b call.values = .ok l ∧
        (k = l ↔ ¬ EqualityKey.TwoKeys a b)) ∧
    ∀ result : List Atomic, distinctValues (values.map .atomic) call = .ok (result.map .atomic) →
      result.Pairwise fun a b =>
        compareBy .eq a b call.values = .ok true → EqualityKey.TwoKeys a b := by
  have hagree : ∀ a ∈ values, ∀ b ∈ values, compareBy .eq a b call.values = .ok true →
      EqualityKey.KeysAgree call.values a b := by
    intro a ha b hb hequal
    exact EqualityKey.keysAgree_of_equal (h a ha).1 (h b hb).1 (h a ha).2 (h b hb).2 hequal
  refine ⟨hagree, ?_⟩
  intro result hresult
  rw [distinctValues_eq] at hresult
  obtain ⟨r, hr, hmap⟩ := Outcome.of_map_ok hresult
  obtain rfl : r = result := List.map_injective_iff.2 (fun a b hab => Item.atomic.inj hab) hmap
  obtain ⟨kept, hkept, hpass⟩ := distinctBeside_keeps [] values 0 (exists_of_distinctBeside hr)
  obtain rfl : kept.map Prod.fst = r := Except.ok.inj (hpass.symm.trans hr)
  rw [List.pairwise_map]
  refine hkept.apart.imp_of_mem fun {p q} hp hq hkey hequal => ?_
  have hpv : p.1 ∈ values := List.fst_mem_of_mem_zipIdx (hkept.sublist.subset hp)
  have hqv : q.1 ∈ values := List.fst_mem_of_mem_zipIdx (hkept.sublist.subset hq)
  obtain ⟨k, l, hk, hl, hiff⟩ := hagree p.1 hpv q.1 hqv hequal
  -- The keys that are kept differ, so that this must be one of the three cases.
  by_contra hone
  exact hkey (by rw [hk, hl, hiff.2 hone])

/-- A pair of equal values for each case: no time and no months, two years beyond the calendar,
    and a decimal number with and without zeros at its end. -/
def twoKeyValues : List Atomic :=
  [.duration .zero .zero, .yearMonthDuration .zero,
    .fragment (.year 300000) none, .fragment (.year 400000) none,
    .decimal ⟨114, 2, by decide, by decide⟩,
    .decimal ⟨1140000000000000000, 18, by decide, by decide⟩]

theorem fromText_twoKeyValues : ∀ a ∈ twoKeyValues, a.FromText ∧ a.isExact = true := by
  intro a ha
  have hcast : ∃ s, (str s).cast a.type .standard = .ok a := by
    unfold twoKeyValues at ha
    simp only [List.mem_cons, List.not_mem_nil, or_false] at ha
    rcases ha with rfl | rfl | rfl | rfl | rfl | rfl
    · exact ⟨"PT0S", by decide +kernel⟩
    · exact ⟨"P0M", by decide +kernel⟩
    · exact ⟨"300000", by decide +kernel⟩
    · exact ⟨"400000", by decide +kernel⟩
    · exact ⟨"1.14", by decide +kernel⟩
    · exact ⟨"1.140000000000000000", by decide +kernel⟩
  obtain ⟨s, hs⟩ := hcast
  have hexact : ∀ a ∈ twoKeyValues, a.isExact = true := by decide
  exact ⟨.of_cast hs, hexact a ha⟩

theorem distinct_values_repeat_two_keys_pairs :
    let call : CallContext := ⟨.empty .words, .standard⟩
    (∀ a ∈ twoKeyValues, a.FromText ∧ a.isExact = true) ∧
      distinctValues (twoKeyValues.map .atomic) call = .ok (twoKeyValues.map .atomic) ∧
      twoKeyValues.Pairwise fun a b =>
        compareBy .eq a b call.values = .ok true → EqualityKey.TwoKeys a b := by
  intro call
  have hresult : distinctValues (twoKeyValues.map .atomic) call =
      .ok (twoKeyValues.map .atomic) := by decide +kernel
  exact ⟨fromText_twoKeyValues, hresult,
    (distinct_values_repeat_two_keys call twoKeyValues fromText_twoKeyValues).2 _ hresult⟩

/-- Two equal values from texts have two keys, and the function keeps both. -/
def KeptTwice (a b : Atomic) : Prop :=
  (a.FromText ∧ a.isExact = true) ∧ (b.FromText ∧ b.isExact = true) ∧
    compareBy .eq a b .standard = .ok true ∧
    EqualityKey.of a .standard ≠ EqualityKey.of b .standard ∧
    distinctValues [.atomic a, .atomic b] ⟨.empty .words, .standard⟩ =
      .ok [.atomic a, .atomic b]

theorem equal_values_kept_twice :
    KeptTwice (.duration .zero .zero) (.yearMonthDuration .zero) ∧
      KeptTwice (.fragment (.year 300000) none) (.fragment (.year 400000) none) ∧
      KeptTwice (.decimal ⟨114, 2, by decide, by decide⟩)
        (.decimal ⟨1140000000000000000, 18, by decide, by decide⟩) := by
  have hmem := fromText_twoKeyValues
  simp only [twoKeyValues, List.mem_cons, List.not_mem_nil, or_false, forall_eq_or_imp,
    forall_eq] at hmem
  obtain ⟨hduration, hmonths, hyear, hyear', hdecimal, hdecimal'⟩ := hmem
  exact ⟨⟨hduration, hmonths, by decide +kernel⟩, ⟨hyear, hyear', by decide +kernel⟩,
    ⟨hdecimal, hdecimal', by decide +kernel⟩⟩

end XPathData.Library
