import Mathlib.Data.List.Induction
import XPathData.Function.Table
import XPathData.Proofs.Function.Arrangement

/-! # Calls of overloaded functions

  A table grows by registrations, and a call means the narrowest overload that admits its number of
  arguments, the one that was registered first if several have this range. The order of
  registrations counts for nothing else: where no range is registered twice under one name, tables
  with the same registrations answer all calls alike.

  * `FunctionTable.inOrder_ofList` — a table keeps the overloads of every name in order
  * `FunctionTable.resolve_most_specific` — what a call means, or why it means nothing
-/

namespace XPathData.FunctionTable

open Overload

variable {α : Type} {t : FunctionTable α} {regs : List (ExpandedName × Overload α)}
  {name : ExpandedName} {n : Nat} {space : Option String} {o : Overload α}

/-! ### Registrations -/

/-- The table after some registrations. -/
def ofList (regs : List (ExpandedName × Overload α)) : FunctionTable α :=
  regs.foldl (fun t r => t.register r.1 r.2) .empty

/-- The overloads of a name as they were registered. -/
def registered (regs : List (ExpandedName × Overload α)) (name : ExpandedName) :
    List (Overload α) :=
  (regs.filter fun r => r.1 = name).map Prod.snd

theorem mem_registered : o ∈ registered regs name ↔ (name, o) ∈ regs := by
  simp [registered]

/-- One more registration keeps the overloads of every name in order. -/
theorem inOrder_register (h : InOrder (registered regs name) (t.overloads name))
    (r : ExpandedName × Overload α) :
    InOrder (registered (regs ++ [r]) name) ((t.register r.1 r.2).overloads name) := by
  unfold registered at h ⊢
  by_cases hr : r.1 = name
  · subst hr
    rw [overloads_register_self, List.filter_append, List.map_append]
    simpa using h.add r.2
  · rw [overloads_register_ne t r.2 hr, List.filter_append, List.map_append]
    simpa [hr] using h

/-- After any registrations the overloads of every name are in order. -/
theorem inOrder_ofList (regs : List (ExpandedName × Overload α)) (name : ExpandedName) :
    InOrder (registered regs name) ((ofList regs).overloads name) := by
  induction regs using List.reverseRecOn with
  | nil => exact .nil
  | append_singleton regs r ih =>
    rw [ofList, List.foldl_append]
    exact inOrder_register ih r

/-! ### Calls -/

/-- How a name with the overloads `l` answers a call with `n` arguments. It means the narrowest
    overload that admits the number. It fails only if none admits it, and then it is told apart
    whether there are overloads at all: if so, all numbers that bounded ones admit are listed
    upward. -/
structure Answers (l : List (Overload α)) (name : ExpandedName) (n : Nat)
    (result : Except CallFault α) : Prop where
  meant : (∃ o ∈ l, o.admits n = true) → ∃ o, Meant l n o ∧ result = .ok o.function
  unknown : l = [] → result = .error (.unknown name)
  arity : l ≠ [] → (∀ o ∈ l, o.admits n = false) → ∃ available,
    result = .error (.arity name available) ∧ available.Pairwise (· < ·) ∧
    (∀ m, m ∈ available ↔ ∃ o ∈ l, o.greatest.isSome = true ∧ o.admits m = true) ∧
    n ∉ available

theorem resolve_of_exactly (h : (t.overloads name).find? (·.isExactly n) = some o) :
    t.resolve name n space = .ok o.function := by
  rw [resolve, h]

theorem resolve_of_admits (hnone : (t.overloads name).find? (·.isExactly n) = none)
    (h : (t.overloads (effectiveName space name)).find? (·.admits n) = some o) :
    t.resolve name n space = .ok o.function := by
  rw [resolve, hnone]
  dsimp only
  split
  · next hempty =>
    rw [hempty] at h
    cases h
  · rw [h]

theorem resolve_of_unknown (hnone : (t.overloads name).find? (·.isExactly n) = none)
    (h : t.overloads (effectiveName space name) = []) :
    t.resolve name n space = .error (.unknown (effectiveName space name)) := by
  rw [resolve, hnone]
  dsimp only
  rw [h]

theorem resolve_of_arity (hnone : (t.overloads name).find? (·.isExactly n) = none)
    (hne : t.overloads (effectiveName space name) ≠ [])
    (h : (t.overloads (effectiveName space name)).find? (·.admits n) = none) :
    t.resolve name n space = .error (.arity (effectiveName space name)
      (arities (t.overloads (effectiveName space name)))) := by
  rw [resolve, hnone]
  dsimp only
  split
  · next hempty => exact absurd hempty hne
  · rw [h]

/-- A call depends on the overloads of names only. -/
theorem resolve_congr {t' : FunctionTable α}
    (h : ∀ name, t.overloads name = t'.overloads name) (name : ExpandedName) (n : Nat)
    (space : Option String) : t.resolve name n space = t'.resolve name n space := by
  simp only [resolve, h]

/-- Among registrations with different names or ranges the order counts for nothing. -/
theorem overloads_of_perm {regs' : List (ExpandedName × Overload α)} (hperm : regs'.Perm regs)
    (hnodup : (regs.map fun r => (r.1, r.2.range)).Nodup) (name : ExpandedName) :
    (ofList regs').overloads name = (ofList regs).overloads name := by
  refine ((inOrder_ofList regs name).unique (inOrder_ofList regs' name)
    ((hperm.symm.filter _).map _) ?_).symm
  intro o ho p hp hrange
  have hpair := List.inj_on_of_nodup_map hnodup (mem_registered.1 ho) (mem_registered.1 hp)
    (by rw [hrange])
  exact (Prod.mk.inj hpair).2

theorem exists_find?_of_inOrder {l s : List (Overload α)} {test : Overload α → Bool}
    (h : InOrder l s) (hex : ∃ o ∈ l, test o = true) : ∃ o, s.find? test = some o := by
  obtain ⟨o, ho, htest⟩ := hex
  exact Option.isSome_iff_exists.1 (List.find?_isSome.2 ⟨o, h.perm.mem_iff.2 ho, htest⟩)

theorem find?_eq_none_of_inOrder {l s : List (Overload α)} {test : Overload α → Bool}
    (h : InOrder l s) (hall : ∀ o ∈ l, test o = false) : s.find? test = none := by
  rw [List.find?_eq_none]
  intro o ho
  simp [hall o (h.perm.mem_iff.1 ho)]

/-- The overload for exactly the number of arguments, if the name has one. -/
theorem resolve_of_isExactly (hex : ∃ o ∈ registered regs name, o.isExactly n = true) :
    ∃ o, Meant (registered regs name) n o ∧
      (ofList regs).resolve name n space = .ok o.function := by
  have hown := inOrder_ofList regs name
  obtain ⟨o, ho⟩ := exists_find?_of_inOrder hown hex
  exact ⟨o, hown.meant_of_find?_exactly ho, resolve_of_exactly ho⟩

/-- Without such an overload the name in the default namespace answers. -/
theorem answers_of_not_isExactly (hnone : ∀ o ∈ registered regs name, o.isExactly n = false) :
    let effective := effectiveName space name
    Answers (registered regs effective) effective n ((ofList regs).resolve name n space) := by
  intro effective
  let l := registered regs effective
  have hl : InOrder l ((ofList regs).overloads effective) := inOrder_ofList regs effective
  have hexactly := find?_eq_none_of_inOrder (inOrder_ofList regs name) hnone
  have hempty : (ofList regs).overloads effective = [] ↔ l = [] := by
    rw [← List.length_eq_zero_iff, ← List.length_eq_zero_iff, hl.perm.length_eq]
  refine ⟨fun hex => ?_, fun h => resolve_of_unknown hexactly (hempty.2 h), fun hne hall => ?_⟩
  · obtain ⟨o, ho⟩ := exists_find?_of_inOrder hl hex
    exact ⟨o, hl.meant_of_find? ho, resolve_of_admits hexactly ho⟩
  · have hmem (m : Nat) : m ∈ arities ((ofList regs).overloads effective) ↔
        ∃ o ∈ l, o.greatest.isSome = true ∧ o.admits m = true := by
      simp only [mem_arities, hl.perm.mem_iff]
    refine ⟨_, resolve_of_arity hexactly (mt hempty.1 hne) (find?_eq_none_of_inOrder hl hall),
      pairwise_arities _, hmem, fun hn => ?_⟩
    -- The number would be listed for an overload that admits it.
    obtain ⟨o, ho, -, hadmits⟩ := (hmem n).1 hn
    rw [hall o ho] at hadmits
    cases hadmits

/-- A call means the overload of its name for exactly its number of arguments, if there is one.
    Else the overloads of the name in the default namespace answer it. Registering in another order
    changes no call, if no range is registered twice under a name. -/
theorem resolve_most_specific (regs : List (ExpandedName × Overload α)) (name : ExpandedName)
    (n : Nat) (space : Option String) :
    let result := (ofList regs).resolve name n space
    let effective := effectiveName space name
    ((∃ o ∈ registered regs name, o.isExactly n = true) →
      ∃ o, Meant (registered regs name) n o ∧ result = .ok o.function) ∧
    ((effective ≠ name → ∀ o ∈ registered regs name, o.isExactly n = false) →
      Answers (registered regs effective) effective n result) ∧
    ∀ regs' : List (ExpandedName × Overload α), regs'.Perm regs →
      (regs.map fun r => (r.1, r.2.range)).Nodup →
      (ofList regs').resolve name n space = result := by
  intro result effective
  refine ⟨resolve_of_isExactly, ?_, ?_⟩
  · intro hunqualified
    by_cases hex : ∃ o ∈ registered regs name, o.isExactly n = true
    · -- The name is looked up once, since otherwise it has no such overload.
      have hsame : effective = name := by
        by_contra hne
        obtain ⟨o, ho, hexactly⟩ := hex
        rw [hunqualified hne o ho] at hexactly
        cases hexactly
      obtain ⟨o, hmeant, hresolve⟩ := resolve_of_isExactly hex
      rw [← hsame] at hmeant
      refine ⟨fun _ => ⟨o, hmeant, hresolve⟩, fun hempty => ?_, fun _ hall => ?_⟩
      · exact absurd hempty (List.ne_nil_of_mem hmeant.mem)
      · exact absurd hmeant.admits (Bool.eq_false_iff.1 (hall o hmeant.mem))
    · exact answers_of_not_isExactly (by simpa using hex)
  · intro regs' hperm hnodup
    exact resolve_congr (overloads_of_perm hperm hnodup) name n space

/-- Four overloads admit two arguments, and two of them have the narrowest range. -/
theorem resolve_most_specific_overlapping :
    let name : ExpandedName := ⟨none, "f"⟩
    let effective : ExpandedName := ⟨some "urn:f", "f"⟩
    let regs : List (ExpandedName × Overload String) :=
      [(effective, ⟨0, none, "any"⟩), (effective, ⟨1, some 3, "few"⟩),
       (effective, ⟨1, some 2, "fewer"⟩), (effective, ⟨1, some 2, "later"⟩)]
    let l := registered regs effective
    effectiveName (some "urn:f") name = effective ∧ registered regs name = [] ∧
      (∃ o ∈ l, o.admits 2 = true) ∧
      ∃ o, Meant l 2 o ∧ (ofList regs).resolve name 2 (some "urn:f") = .ok o.function := by
  intro name effective regs l
  have hown : registered regs name = [] := rfl
  have hadmits : ∃ o ∈ l, o.admits 2 = true := ⟨⟨0, none, "any"⟩, List.mem_cons_self, rfl⟩
  have hcall := (resolve_most_specific regs name 2 (some "urn:f")).2.1 fun _ o ho => by
    rw [hown] at ho
    cases ho
  exact ⟨rfl, hown, hadmits, hcall.meant hadmits⟩

end XPathData.FunctionTable
