import Mathlib.Data.List.Basic
import XPathData.Tree.Order

/-! # Addresses in a tree

  The address of a node tells how to go down to it from the root of its tree: at each step
  the place of the next node among those that its parent lists. Nodes of one tree are
  ordered by ancestry as their addresses are ordered as words.

  * `Forest.parent_induction` — every parent chain ends at a root
  * `Forest.compareByAncestry_eq` — comparison by ancestry compares addresses
  * `Forest.address_inj` — nodes of one tree have different addresses
-/

namespace XPathData.Forest

variable {F : Forest} {i p r : NodeId}

/-! ### Upward -/

/-- Parents have greater numbers, so going upward comes to a node without a parent. -/
theorem parent_induction (F : Forest) {motive : NodeId → Prop}
    (top : ∀ i, (F.node i).parent = none → motive i)
    (below : ∀ i p, (F.node i).parent = some p → motive p → motive i) (i : NodeId) : motive i := by
  induction hk : F.nodes.size - i using Nat.strongRecOn generalizing i with
  | ind k ih =>
    cases hp : (F.node i).parent with
    | none => exact top i hp
    | some p =>
      have hlt := lt_parent_node hp
      -- Each step upward comes closer to the last node.
      have hless : F.nodes.size - p < F.nodes.size - i :=
        Nat.sub_lt_sub_left (Nat.lt_trans hlt.1 hlt.2) hlt.1
      exact below i p hp (ih _ (hk ▸ hless) p rfl)

theorem ancestors_top (hp : (F.node i).parent = none) : F.ancestors i = [i] := by
  rw [ancestors]
  split
  · rfl
  · next q hq =>
    rw [hp] at hq
    cases hq

theorem ancestors_below (hp : (F.node i).parent = some p) :
    F.ancestors i = i :: F.ancestors p := by
  rw [ancestors]
  split
  · next hq =>
    rw [hp] at hq
    cases hq
  · next q hq =>
    rw [hp] at hq
    cases hq
    rfl

theorem root_top (hp : (F.node i).parent = none) : F.root i = i := by
  simp only [root, ancestors_top hp, List.getLast_singleton]

theorem root_below (hp : (F.node i).parent = some p) : F.root i = F.root p := by
  simp only [root, ancestors_below hp, List.getLast_cons (F.ancestors_ne_nil p)]

theorem parent_root (F : Forest) (i : NodeId) : (F.node (F.root i)).parent = none := by
  induction i using F.parent_induction with
  | top i hp => rw [root_top hp, hp]
  | below i p hp ih => rw [root_below hp, ih]

theorem root_root (F : Forest) (i : NodeId) : F.root (F.root i) = F.root i :=
  root_top (F.parent_root i)

/-! ### Addresses -/

/-- The place of a node among those that its parent lists. -/
def position (F : Forest) (p i : NodeId) : Nat := (F.node p).members.idxOf i

/-- How to go down to a node from the root of its tree. -/
def address (F : Forest) (i : NodeId) : List Nat :=
  match h : (F.node i).parent with
  | none => []
  | some p =>
    have : F.nodes.size - p < F.nodes.size - i :=
      Nat.sub_lt_sub_left (Nat.lt_trans (lt_parent_node h).1 (lt_parent_node h).2)
        (lt_parent_node h).1
    F.address p ++ [F.position p i]
termination_by F.nodes.size - i

theorem address_top (hp : (F.node i).parent = none) : F.address i = [] := by
  rw [address]
  split
  · rfl
  · next q hq =>
    rw [hp] at hq
    cases hq

theorem address_below (hp : (F.node i).parent = some p) :
    F.address i = F.address p ++ [F.position p i] := by
  rw [address]
  split
  · next hq =>
    rw [hp] at hq
    cases hq
  · next q hq =>
    rw [hp] at hq
    cases hq
    rfl

/-! ### Downward -/

/-- Nodes of which each is a member of the one before, the first one of `p`. -/
def Descends (F : Forest) : NodeId → List NodeId → Prop
  | _, [] => True
  | p, i :: l => i ∈ (F.node p).members ∧ F.Descends i l

/-- The positions of such nodes. -/
def positions (F : Forest) : NodeId → List NodeId → List Nat
  | _, [] => []
  | p, i :: l => F.position p i :: F.positions i l

theorem Descends.concat {l : List NodeId} (h : F.Descends r l)
    (hi : i ∈ (F.node ((r :: l).getLast (List.cons_ne_nil r l))).members) :
    F.Descends r (l ++ [i]) := by
  induction l generalizing r with
  | nil => exact ⟨hi, trivial⟩
  | cons j l ih => exact ⟨h.1, ih h.2 (by simpa using hi)⟩

theorem positions_concat {l : List NodeId} :
    F.positions r (l ++ [i]) =
      F.positions r l ++ [F.position ((r :: l).getLast (List.cons_ne_nil r l)) i] := by
  induction l generalizing r with
  | nil => rfl
  | cons j l ih =>
    simp only [List.cons_append, positions, ih]
    simp

/-- The path to a node starts at the root, goes down by members, and the address tells its
    positions. -/
theorem exists_path (F : Forest) (i : NodeId) :
    ∃ l, F.path i = F.root i :: l ∧ F.Descends (F.root i) l ∧
      F.positions (F.root i) l = F.address i ∧
      (F.root i :: l).getLast (List.cons_ne_nil _ _) = i := by
  induction i using F.parent_induction with
  | top i hp =>
    refine ⟨[], ?_, trivial, ?_, ?_⟩
    · simp only [path, ancestors_top hp, root_top hp, List.reverse_singleton]
    · rw [address_top hp]
      rfl
    · rw [List.getLast_singleton, root_top hp]
  | below i p hp ih =>
    obtain ⟨l, hpath, hdown, haddress, hlast⟩ := ih
    rw [root_below hp]
    refine ⟨l ++ [i], ?_, ?_, ?_, ?_⟩
    · rw [path, ancestors_below hp, List.reverse_cons]
      exact congrArg (· ++ [i]) hpath
    · exact hdown.concat (hlast.symm ▸ mem_members_parent hp)
    · rw [positions_concat, haddress, hlast, address_below hp]
    · exact List.getLast_concat (l := F.root p :: l)

theorem path_eq_path_iff {a b : NodeId} : F.path a = F.path b ↔ a = b := by
  constructor
  · intro h
    obtain ⟨l, hl, -, -, hlast⟩ := F.exists_path a
    obtain ⟨m, hm, -, -, hlast'⟩ := F.exists_path b
    have hsame : F.root a :: l = F.root b :: m := by rw [← hl, ← hm, h]
    rw [← hlast, ← hlast']
    simp only [hsame]
  · rintro rfl
    rfl

/-! ### Comparison -/

theorem idxOf?_of_mem {l : List NodeId} {a : NodeId} (ha : a ∈ l) :
    l.idxOf? a = some (l.idxOf a) := by
  induction l with
  | nil => cases ha
  | cons b l ih =>
    rw [List.idxOf?_cons, List.idxOf_cons]
    by_cases hba : b = a
    · simp [hba]
    · have hmem : a ∈ l := (List.mem_cons.1 ha).resolve_left (Ne.symm hba)
      have hbeq : (b == a) = false := beq_false_of_ne hba
      simp [hbeq, ih hmem]

/-- Paths that go down from one node compare as their positions. -/
theorem comparePaths_eq {as bs : List NodeId} (ha : F.Descends p as) (hb : F.Descends p bs) :
    F.comparePaths (some p) as bs = .ok (compare (F.positions p as) (F.positions p bs)) := by
  induction as generalizing p bs with
  | nil => cases bs <;> rfl
  | cons a as ih =>
    cases bs with
    | nil => rfl
    | cons b bs =>
      by_cases hab : a = b
      · subst hab
        simp only [comparePaths, ↓reduceIte, positions, List.compare_cons_cons,
          Std.ReflCmp.compare_self, Ordering.eq_then]
        exact ih ha.2 hb.2
      · -- The first difference decides, since different members have different positions.
        have hne : F.position p a ≠ F.position p b := fun h => hab ((List.idxOf_inj ha.1).1 h)
        have hcompare : compare (F.position p a) (F.position p b) ≠ .eq := by
          rwa [Ne, Nat.compare_eq_eq]
        simp only [comparePaths, hab, ↓reduceIte, positions, List.compare_cons_cons, compareListed,
          idxOf?_of_mem ha.1, idxOf?_of_mem hb.1]
        congr 1
        revert hcompare
        unfold position
        cases compare ((F.node p).members.idxOf a) ((F.node p).members.idxOf b) <;> simp

/-- Nodes of one tree compare as their addresses. -/
theorem compareByAncestry_eq {a b : NodeId} (h : F.root a = F.root b) :
    F.compareByAncestry a b = .ok (compare (F.address a) (F.address b)) := by
  obtain ⟨l, hl, hdown, haddress, -⟩ := F.exists_path a
  obtain ⟨m, hm, hdown', haddress', -⟩ := F.exists_path b
  rw [← h] at hm hdown' haddress'
  rw [compareByAncestry, hl, hm, comparePaths, if_pos rfl, comparePaths_eq hdown hdown', haddress,
    haddress']

theorem positions_inj {as bs : List NodeId} (ha : F.Descends p as) (hb : F.Descends p bs)
    (h : F.positions p as = F.positions p bs) : as = bs := by
  induction as generalizing p bs with
  | nil =>
    cases bs with
    | nil => rfl
    | cons b bs => cases h
  | cons a as ih =>
    cases bs with
    | nil => cases h
    | cons b bs =>
      obtain ⟨hhead, htail⟩ := List.cons.inj h
      obtain rfl := (List.idxOf_inj ha.1).1 hhead
      rw [ih ha.2 hb.2 htail]

/-- Nodes of one tree have different addresses. -/
theorem address_inj {a b : NodeId} (h : F.root a = F.root b)
    (haddress : F.address a = F.address b) : a = b := by
  obtain ⟨l, hl, hdown, hpos, -⟩ := F.exists_path a
  obtain ⟨m, hm, hdown', hpos', -⟩ := F.exists_path b
  rw [← h] at hm hdown' hpos'
  have hsame : l = m := positions_inj hdown hdown' (by rw [hpos, hpos', haddress])
  rw [← path_eq_path_iff (F := F), hl, hm, hsame]

/-- Nodes of different trees cannot be compared by ancestry. -/
theorem compareByAncestry_of_ne {a b : NodeId} (h : F.root a ≠ F.root b) :
    F.compareByAncestry a b = .error noCommonRoot := by
  obtain ⟨l, hl, -, -, -⟩ := F.exists_path a
  obtain ⟨m, hm, -, -, -⟩ := F.exists_path b
  rw [compareByAncestry, hl, hm, comparePaths, if_neg h]

end XPathData.Forest
