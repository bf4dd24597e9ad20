import Mathlib.Data.List.Sort
import XPathData.Function.Overload

/-! # Overloads in order

  Overloads are kept in the order in which calls try them: every new one is put behind the others
  and all are arranged again. Whatever is added, they stay in order, none is lost, and those with
  one range stand as they were added. So the first one that a call can use is the narrowest, and
  the oldest of its range.

  * `Overload.Leads` — the order, said of bounds
  * `Overload.InOrder.add` — what one registration keeps
  * `Overload.InOrder.meant_of_find?` — what the first overload that fits is
  * `Overload.InOrder.unique` — where no two ranges are equal, there is one order
-/

namespace XPathData.Overload

variable {α : Type} {o p q : Overload α} {l s : List (Overload α)} {n : Nat}

/-! ### The order -/

/-- The first bound is at most the second one; no bound is greater than all. -/
def BoundLe (b c : Option Nat) : Prop := ∀ k ∈ c, ∃ m ∈ b, m ≤ k

/-- An overload is tried before another one, or they have one range: it needs more arguments, or as
    many and takes no more at most. -/
def Leads (o p : Overload α) : Prop :=
  p.least < o.least ∨ p.least = o.least ∧ BoundLe o.greatest p.greatest

/-- The least and the greatest number of arguments. -/
def range (o : Overload α) : Nat × Option Nat := (o.least, o.greatest)

theorem boundLe_iff {b c : Option Nat} : BoundLe b c ↔ (compareBounds b c).isLE = true := by
  unfold BoundLe
  cases b <;> cases c <;> simp [compareBounds, Nat.isLE_compare]

theorem BoundLe.trans {b c d : Option Nat} (h : BoundLe b c) (h' : BoundLe c d) : BoundLe b d := by
  intro k hk
  obtain ⟨m, hm, hmk⟩ := h' k hk
  obtain ⟨j, hj, hjm⟩ := h m hm
  exact ⟨j, hj, Nat.le_trans hjm hmk⟩

theorem BoundLe.total (b c : Option Nat) : BoundLe b c ∨ BoundLe c b := by
  unfold BoundLe
  cases b <;> cases c <;> simp [Nat.le_total]

theorem BoundLe.antisymm {b c : Option Nat} (h : BoundLe b c) (h' : BoundLe c b) : b = c := by
  unfold BoundLe at h h'
  cases b with
  | none => cases c <;> simp at h ⊢
  | some m =>
    cases c with
    | none => simp at h'
    | some k =>
      simp only [Option.mem_def, Option.some.injEq, forall_eq', exists_eq_left'] at h h'
      rw [Nat.le_antisymm h h']

theorem order_isLE_iff : (order o p).isLE = true ↔ Leads o p := by
  unfold order Leads
  rw [boundLe_iff]
  rcases Nat.lt_trichotomy p.least o.least with h | h | h
  · simp [Nat.compare_eq_lt.2 h, h]
  · simp [h]
  · simp [Nat.compare_eq_gt.2 h, Nat.lt_asymm h, Nat.ne_of_gt h]

theorem Leads.trans (h : Leads o p) (h' : Leads p q) : Leads o q := by
  unfold Leads at *
  rcases h with h | ⟨h, hle⟩ <;> rcases h' with h' | ⟨h', hle'⟩
  · exact .inl (Nat.lt_trans h' h)
  · exact .inl (h' ▸ h)
  · exact .inl (h ▸ h')
  · exact .inr ⟨h'.trans h, hle.trans hle'⟩

theorem Leads.total (o p : Overload α) : Leads o p ∨ Leads p o := by
  unfold Leads
  rcases Nat.lt_trichotomy p.least o.least with h | h | h
  · exact .inl (.inl h)
  · exact (BoundLe.total o.greatest p.greatest).imp (fun hle => .inr ⟨h, hle⟩)
      fun hle => .inr ⟨h.symm, hle⟩
  · exact .inr (.inl h)

/-- Only overloads with one range come before each other. -/
theorem Leads.antisymm (h : Leads o p) (h' : Leads p o) : o.range = p.range := by
  unfold Leads at h h'
  have hleast : o.least = p.least := by omega
  have hle : BoundLe o.greatest p.greatest := (h.resolve_left (by omega)).2
  have hle' : BoundLe p.greatest o.greatest := (h'.resolve_left (by omega)).2
  rw [range, range, hleast, hle.antisymm hle']

theorem leads_of_range_eq (h : o.range = p.range) : Leads o p := by
  obtain ⟨hleast, hgreatest⟩ := Prod.mk.inj h
  refine .inr ⟨hleast.symm, ?_⟩
  rw [hgreatest]
  exact fun k hk => ⟨k, hk, Nat.le_refl k⟩

/-! ### Keeping the order -/

/-- The overloads `s` are those of `l`, in the order of calls, and those with one range stand as
    they stand in `l`. -/
structure InOrder (l s : List (Overload α)) : Prop where
  perm : s.Perm l
  sorted : s.Pairwise Leads
  stable : ∀ r, s.filter (fun p => p.range = r) = l.filter fun p => p.range = r

theorem InOrder.nil : InOrder ([] : List (Overload α)) [] := ⟨.nil, .nil, fun _ => rfl⟩

theorem order_isLE_trans (o p q : Overload α) (h : (order o p).isLE = true)
    (h' : (order p q).isLE = true) : (order o q).isLE = true :=
  order_isLE_iff.2 ((order_isLE_iff.1 h).trans (order_isLE_iff.1 h'))

theorem order_isLE_total (o p : Overload α) :
    ((order o p).isLE || (order p o).isLE) = true := by
  rw [Bool.or_eq_true, order_isLE_iff, order_isLE_iff]
  exact Leads.total o p

/-- Arranging puts overloads in order and leaves those with one range as they were. -/
theorem inOrder_arrange (l : List (Overload α)) : InOrder l (arrange l) where
  perm := List.mergeSort_perm l _
  sorted :=
    (List.pairwise_mergeSort order_isLE_trans order_isLE_total l).imp order_isLE_iff.1
  stable r := by
    let own := l.filter fun p => p.range = r
    -- Those with the range are in order already, so arranging keeps them as they stand.
    have hkept : own.Sublist (arrange l) := by
      refine List.sublist_mergeSort order_isLE_trans order_isLE_total ?_ List.filter_sublist
      refine List.pairwise_of_forall_mem_list fun o ho p hp => ?_
      have ho := of_decide_eq_true (List.mem_filter.1 ho).2
      have hp := of_decide_eq_true (List.mem_filter.1 hp).2
      exact order_isLE_iff.2 (leads_of_range_eq (ho.trans hp.symm))
    have hsub := hkept.filter fun p => decide (p.range = r)
    rw [List.filter_filter] at hsub
    simp only [Bool.and_self] at hsub
    exact (hsub.eq_of_length ((List.mergeSort_perm l _).filter _).length_eq.symm).symm

/-- Adding an overload keeps the order. -/
theorem InOrder.add (h : InOrder l s) (o : Overload α) :
    InOrder (l ++ [o]) (arrange (s ++ [o])) := by
  have harranged := inOrder_arrange (s ++ [o])
  refine ⟨harranged.perm.trans (h.perm.append_right [o]), harranged.sorted, fun r => ?_⟩
  rw [harranged.stable, List.filter_append, List.filter_append, h.stable]

/-! ### Finding an overload -/

/-- What a call with `n` arguments means by the overloads `l`: the one with the narrowest range
    that admits the number, and of several with this range the first one. -/
structure Meant (l : List (Overload α)) (n : Nat) (o : Overload α) : Prop where
  admits : o.admits n = true
  narrowest : ∀ p ∈ l, p.admits n = true →
    p.least ≤ o.least ∧ (p.least = o.least → BoundLe o.greatest p.greatest)
  first : ∃ before after, l = before ++ o :: after ∧ ∀ p ∈ before, p.range ≠ o.range

theorem Meant.mem (h : Meant l n o) : o ∈ l := by
  obtain ⟨before, after, rfl, -⟩ := h.first
  exact List.mem_append_right before List.mem_cons_self

/-- The first overload in order that passes a test on ranges leads the others that pass it, and is
    the first one of its range. -/
theorem InOrder.of_find? (h : InOrder l s) {test : Overload α → Bool}
    (htest : ∀ o p, o.range = p.range → test o = test p) (hfind : s.find? test = some o) :
    test o = true ∧ (∀ p ∈ l, test p = true → Leads o p) ∧
      ∃ before after, l = before ++ o :: after ∧ ∀ p ∈ before, p.range ≠ o.range := by
  obtain ⟨ho, front, back, rfl, hfront⟩ := List.find?_eq_some_iff_append.1 hfind
  have hfails : ∀ p ∈ front, test p = false := by simpa using hfront
  refine ⟨ho, ?_, ?_⟩
  · intro p hp hpass
    rcases List.mem_append.1 (h.perm.mem_iff.2 hp) with hp | hp
    · rw [hfails p hp] at hpass
      cases hpass
    · rcases List.mem_cons.1 hp with rfl | hp
      · exact leads_of_range_eq rfl
      · exact List.rel_of_pairwise_cons (List.pairwise_append.1 h.sorted).2.1 hp
  · -- No overload in front has the range, since it would pass the test.
    have hother : front.filter (fun p => p.range = o.range) = [] := by
      rw [List.filter_eq_nil_iff]
      intro p hp heq
      have hpass := htest p o (of_decide_eq_true heq)
      rw [hfails p hp, ho] at hpass
      cases hpass
    have hstable := h.stable o.range
    rw [List.filter_append, hother, List.nil_append,
      List.filter_cons_of_pos (by simp)] at hstable
    obtain ⟨before, after, hl, hbefore, -⟩ := List.filter_eq_cons_iff.1 hstable.symm
    exact ⟨before, after, hl, fun p hp => by simpa using hbefore p hp⟩

theorem admits_eq_of_range_eq (h : o.range = p.range) : o.admits n = p.admits n := by
  obtain ⟨hleast, hgreatest⟩ := Prod.mk.inj h
  rw [admits, admits, hleast, hgreatest]

theorem isExactly_eq_of_range_eq (h : o.range = p.range) : o.isExactly n = p.isExactly n := by
  obtain ⟨hleast, hgreatest⟩ := Prod.mk.inj h
  rw [isExactly, isExactly, hleast, hgreatest]

theorem admits_iff : o.admits n = true ↔ o.least ≤ n ∧ ∀ k ∈ o.greatest, n ≤ k := by
  simp [admits, Option.all_eq_true]

theorem isExactly_iff : o.isExactly n = true ↔ o.least = n ∧ o.greatest = some n := by
  simp [isExactly]

theorem Leads.narrower (h : Leads o p) :
    p.least ≤ o.least ∧ (p.least = o.least → BoundLe o.greatest p.greatest) := by
  rcases h with h | ⟨h, hle⟩
  · exact ⟨Nat.le_of_lt h, fun heq => absurd heq (Nat.ne_of_lt h)⟩
  · exact ⟨Nat.le_of_eq h, fun _ => hle⟩

/-- The first overload that admits the number of arguments is the one that is meant. -/
theorem InOrder.meant_of_find? (h : InOrder l s)
    (hfind : s.find? (fun p => p.admits n) = some o) : Meant l n o := by
  obtain ⟨ho, hleads, hfirst⟩ := h.of_find? (fun _ _ => admits_eq_of_range_eq) hfind
  exact ⟨ho, fun p hp hn => (hleads p hp hn).narrower, hfirst⟩

/-- An overload for exactly this number leads all that admit the number. -/
theorem leads_of_isExactly (ho : o.isExactly n = true) (hp : p.admits n = true) : Leads o p := by
  obtain ⟨hleast, hgreatest⟩ := isExactly_iff.1 ho
  obtain ⟨hle, hbound⟩ := admits_iff.1 hp
  rcases Nat.lt_or_eq_of_le hle with hlt | heq
  · exact .inl (hleast ▸ hlt)
  · exact .inr ⟨heq.trans hleast.symm, fun k hk => ⟨n, hgreatest, hbound k hk⟩⟩

theorem admits_of_isExactly (h : o.isExactly n = true) : o.admits n = true := by
  obtain ⟨hleast, hgreatest⟩ := isExactly_iff.1 h
  simp [admits_iff, hleast, hgreatest]

/-- The first overload for exactly this number is the one that is meant. -/
theorem InOrder.meant_of_find?_exactly (h : InOrder l s)
    (hfind : s.find? (fun p => p.isExactly n) = some o) : Meant l n o := by
  obtain ⟨ho, -, hfirst⟩ := h.of_find? (fun _ _ => isExactly_eq_of_range_eq) hfind
  exact ⟨admits_of_isExactly ho, fun p _ hn => (leads_of_isExactly ho hn).narrower, hfirst⟩

/-- Overloads with different ranges have one order, however they were added. -/
theorem InOrder.unique {l' s' : List (Overload α)} (h : InOrder l s) (h' : InOrder l' s')
    (hperm : l.Perm l') (hranges : ∀ o ∈ l, ∀ p ∈ l, o.range = p.range → o = p) : s = s' := by
  -- Sorted lists with the same members are equal, since only one overload has each range.
  refine List.Perm.eq_of_pairwise ?_ h.sorted h'.sorted (h.perm.trans (hperm.trans h'.perm.symm))
  intro o p ho hp hop hpo
  have hp : p ∈ l := hperm.mem_iff.2 (h'.perm.mem_iff.1 hp)
  exact hranges o (h.perm.mem_iff.1 ho) p hp (hop.antisymm hpo)

/-! ### Numbers of arguments -/

theorem mem_counts : n ∈ o.counts ↔ o.greatest.isSome = true ∧ o.admits n = true := by
  unfold counts
  cases h : o.greatest with
  | none => simp
  | some m =>
    rw [List.mem_range', admits_iff, h]
    simp only [Nat.one_mul, Option.isSome_some, true_and, Option.mem_def, Option.some.injEq,
      forall_eq']
    constructor
    · rintro ⟨i, hi, rfl⟩
      omega
    · rintro ⟨hle, hbound⟩
      exact ⟨n - o.least, by omega, by omega⟩

theorem mem_dropRepeats {l : List Nat} : n ∈ dropRepeats l ↔ n ∈ l := by
  induction l using dropRepeats.induct with
  | case1 => rfl
  | case2 m => rfl
  | case3 m l ih => simp [dropRepeats, ih]
  | case4 m k l hne ih => simp [dropRepeats, hne, ih]

theorem pairwise_dropRepeats {l : List Nat} (h : l.Pairwise (· ≤ ·)) :
    (dropRepeats l).Pairwise (· < ·) := by
  induction l using dropRepeats.induct with
  | case1 => exact .nil
  | case2 m => exact List.pairwise_singleton _ _
  | case3 m l ih =>
    rw [dropRepeats, if_pos rfl]
    exact ih h.of_cons
  | case4 m k l hne ih =>
    rw [dropRepeats, if_neg hne]
    refine List.pairwise_cons.2 ⟨fun j hj => ?_, ih h.of_cons⟩
    have hmk : m ≤ k := List.rel_of_pairwise_cons h List.mem_cons_self
    have hkj : k ≤ j := by
      rcases List.mem_cons.1 (mem_dropRepeats.1 hj) with rfl | hj
      · exact Nat.le_refl j
      · exact List.rel_of_pairwise_cons h.of_cons hj
    omega

theorem mem_arities : n ∈ arities l ↔
    ∃ o ∈ l, o.greatest.isSome = true ∧ o.admits n = true := by
  rw [arities, mem_dropRepeats, (List.mergeSort_perm _ _).mem_iff, List.mem_flatMap]
  simp only [mem_counts]

/-- The numbers of arguments are listed upward, each of them once. -/
theorem pairwise_arities (l : List (Overload α)) : (arities l).Pairwise (· < ·) := by
  refine pairwise_dropRepeats ((List.pairwise_mergeSort ?_ ?_ _).imp of_decide_eq_true)
  · intro a b c h h'
    simp only [decide_eq_true_eq] at h h' ⊢
    exact Nat.le_trans h h'
  · intro a b
    simp only [Bool.or_eq_true, decide_eq_true_eq]
    exact Nat.le_total a b

end XPathData.Overload
