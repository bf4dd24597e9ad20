import XPathData.Proofs.Atomic.Exchange
import XPathData.Proofs.Sequence.Reading

/-! # General comparison

  A general comparison asks whether some atomic value of the left sequence compares with some
  value of the right one. The right sequence is read first and as a whole, then each value of
  the left one is tried with all of them. The first trial that is not false decides, whether it
  holds or fails, so a failure may hide a pair that compares. Where both succeed, exchanging
  the operands and converting the operator makes no difference.

  * `atomsOf`, `ComparisonOp.trials` — what is tried, in order
  * `ComparisonOp.general` — the comparison as a function of the two lists of values
  * `Stream.Lists.generalCompare` — the comparison of two streams comes to it
  * `Atomic.generalPair_converse` — two values with the operands exchanged
  * `Pool.general_comparison` — when it holds, when it does not, and how it fails
-/

namespace XPathData

/-! ### The values of a sequence -/

/-- The atomic values of the items of a sequence, one after the other; an item without values
    counts as the error that it has instead. -/
def atomsOf (F : Forest) (entries : List Entry) : List (Except Error Atomic) :=
  entries.flatMap fun e =>
    match e.bind (Item.atomize F) with
    | .ok values => values.map .ok
    | .error e => [.error e]

/-- All values; the first error fails. -/
def drained : List (Except Error Atomic) → Except Error (List Atomic)
  | [] => .ok []
  | .ok a :: l => (drained l).map (a :: ·)
  | .error e :: _ => .error e

variable {F : Forest} {entries : List Entry} {atoms left right : List (Except Error Atomic)}
  {values : List Atomic}

theorem drained_eq_ok_iff : drained atoms = .ok values ↔ atoms = values.map .ok := by
  induction atoms generalizing values with
  | nil => cases values <;> simp [drained]
  | cons v atoms ih =>
    cases v with
    | error e => cases values <;> simp [drained]
    | ok a =>
      simp only [drained]
      cases htail : drained atoms with
      | error e =>
        -- A list of values alone would have been drained.
        have hnone (l : List Atomic) : atoms ≠ l.map .ok := by
          intro heq
          rw [ih.2 heq] at htail
          cases htail
        cases values <;> simp [Except.map, hnone]
      | ok l =>
        have hl := ih.1 htail
        subst hl
        cases values with
        | nil => simp [Except.map]
        | cons b values => simp [Except.map, List.map_inj_right]

theorem drained_eq_error_iff {e : Error} :
    drained atoms = .error e ↔
      ∃ (values : List Atomic) (rest : _), atoms = values.map .ok ++ .error e :: rest := by
  induction atoms with
  | nil => simp [drained]
  | cons v atoms ih =>
    cases v with
    | error e' =>
      simp only [drained, Except.error.injEq]
      constructor
      · rintro rfl
        exact ⟨[], atoms, rfl⟩
      · rintro ⟨values, rest, h⟩
        cases values with
        | nil =>
          cases h
          rfl
        | cons => cases h
    | ok a =>
      have hmap : drained (.ok a :: atoms) = .error e ↔ drained atoms = .error e := by
        simp only [drained]
        cases drained atoms <;> simp [Except.map]
      rw [hmap, ih]
      constructor
      · rintro ⟨values, rest, rfl⟩
        exact ⟨a :: values, rest, rfl⟩
      · rintro ⟨values, rest, h⟩
        cases values with
        | nil => cases h
        | cons b values =>
          cases h
          exact ⟨values, rest, rfl⟩

/-! ### Trials -/

/-- The comparisons of each value on the left with all values on the right, one after the other;
    an error on the left is tried with none of them. -/
def ComparisonOp.trials (op : ComparisonOp) (ctx : ValueContext)
    (left : List (Except Error Atomic)) (right : List Atomic) : List (Outcome Bool) :=
  left.flatMap fun v =>
    match v with
    | .ok a => right.map fun b => Atomic.generalPair op a b ctx
    | .error e => [.error (.error e)]

/-- The first trial that is not false decides. -/
def firstDecision : List (Outcome Bool) → Outcome Bool
  | [] => .ok false
  | .ok false :: l => firstDecision l
  | t :: _ => t

/-- What a general comparison comes to. -/
def ComparisonOp.general (op : ComparisonOp) (ctx : ValueContext)
    (left right : List (Except Error Atomic)) : Outcome Bool :=
  match drained right with
  | .error e => .error (.error e)
  | .ok [] => .ok false
  | .ok values => firstDecision (op.trials ctx left values)

variable {l l' : List (Outcome Bool)}

theorem firstDecision_append (l l' : List (Outcome Bool)) :
    firstDecision (l ++ l') =
      match firstDecision l with
      | .ok false => firstDecision l'
      | r => r := by
  induction l with
  | nil => rfl
  | cons t l ih =>
    match t with
    | .ok false => exact ih
    | .ok true => rfl
    | .error f => rfl

theorem firstDecision_eq_false_iff : firstDecision l = .ok false ↔ ∀ t ∈ l, t = .ok false := by
  induction l with
  | nil => simp [firstDecision]
  | cons t l ih =>
    match t with
    | .ok false => simp [firstDecision, ih]
    | .ok true => simp [firstDecision]
    | .error f => simp [firstDecision]

/-- Another decision is that of the first trial that is not false. -/
theorem firstDecision_eq_iff {r : Outcome Bool} (hr : r ≠ .ok false) :
    firstDecision l = r ↔
      ∃ before after, l = before ++ r :: after ∧ ∀ t ∈ before, t = .ok false := by
  constructor
  · intro h
    induction l with
    | nil => exact absurd h.symm hr
    | cons t l ih =>
      match t with
      | .ok false =>
        obtain ⟨before, after, rfl, hbefore⟩ := ih h
        refine ⟨.ok false :: before, after, rfl, ?_⟩
        intro t ht
        rcases List.mem_cons.1 ht with rfl | ht
        · rfl
        · exact hbefore t ht
      | .ok true =>
        cases h
        exact ⟨[], l, rfl, by simp⟩
      | .error f =>
        cases h
        exact ⟨[], l, rfl, by simp⟩
  · rintro ⟨before, after, rfl, hbefore⟩
    rw [firstDecision_append, firstDecision_eq_false_iff.2 hbefore]
    match r with
    | .ok false => exact absurd rfl hr
    | .ok true => rfl
    | .error f => rfl

/-- It is enough for a pair that compares that nothing fails before it: the first pair that
    compares decides. -/
theorem firstDecision_eq_true_iff :
    firstDecision l = .ok true ↔
      ∃ before after, l = before ++ .ok true :: after ∧ ∀ t ∈ before, ∃ v, t = .ok v := by
  constructor
  · intro h
    obtain ⟨before, after, hl, hbefore⟩ := (firstDecision_eq_iff (by simp)).1 h
    exact ⟨before, after, hl, fun t ht => ⟨false, hbefore t ht⟩⟩
  · rintro ⟨before, after, rfl, hbefore⟩
    induction before with
    | nil => rfl
    | cons t before ih =>
      have htail := ih fun t ht => hbefore t (List.mem_cons_of_mem _ ht)
      obtain ⟨v, rfl⟩ := hbefore _ List.mem_cons_self
      cases v with
      | false => exact htail
      | true => rfl

theorem mem_trials {op : ComparisonOp} {ctx : ValueContext} {t : Outcome Bool} :
    t ∈ op.trials ctx left values ↔
      (∃ a b, .ok a ∈ left ∧ b ∈ values ∧ t = Atomic.generalPair op a b ctx) ∨
        ∃ e, .error e ∈ left ∧ t = .error (.error e) := by
  unfold ComparisonOp.trials
  rw [List.mem_flatMap]
  constructor
  · rintro ⟨v, hv, ht⟩
    cases v with
    | ok a =>
      obtain ⟨b, hb, rfl⟩ := List.mem_map.1 ht
      exact .inl ⟨a, b, hv, hb, rfl⟩
    | error e => exact .inr ⟨e, hv, List.mem_singleton.1 ht⟩
  · rintro (⟨a, b, ha, hb, rfl⟩ | ⟨e, he, rfl⟩)
    · exact ⟨_, ha, List.mem_map.2 ⟨b, hb, rfl⟩⟩
    · exact ⟨_, he, List.mem_singleton.2 rfl⟩

/-! ### Readings within an evaluation -/

namespace Evaluation

variable {α β : Type} {x : Fetch α} {f : α → Evaluation β} {s s' : Store}

/-- A reading within an evaluation does what it does alone. -/
theorem run_lift {r : Except Error α} (h : x s = (r, s')) :
    (liftM x : Evaluation α) s = (r.mapError .error, s') := by
  cases r with
  | ok a =>
    simp only [liftM, monadLift, MonadLift.monadLift, h]
    rfl
  | error e =>
    simp only [liftM, monadLift, MonadLift.monadLift, h]
    rfl

theorem run_bind {y : Evaluation α} {r : Except Failure α} (h : y s = (r, s')) :
    (y >>= f) s = ExceptT.bindCont f r s' := by
  show (match y s with | (r, s') => ExceptT.bindCont f r s') = _
  rw [h]

theorem bind_ok {a : α} (h : x s = (.ok a, s')) :
    ((liftM x : Evaluation α) >>= f) s = f a s' :=
  run_bind (run_lift h)

theorem bind_error {e : Error} (h : x s = (.error e, s')) :
    ((liftM x : Evaluation α) >>= f) s = (.error (.error e), s') :=
  run_bind (run_lift h)

end Evaluation

/-! ### Two streams -/

/-- Atomization gives the values as items. -/
theorem flatMap_atomized (F : Forest) (entries : List Entry) :
    entries.flatMap (Entry.atomized F) = (atomsOf F entries).map (Except.map .atomic) := by
  unfold atomsOf
  rw [List.map_flatMap]
  congr 1
  funext e
  cases e with
  | error e => rfl
  | ok x =>
    simp only [Entry.atomized, Except.bind]
    cases x.atomize F with
    | ok values => simp [Except.map]
    | error e => rfl

theorem collect_atomized (atoms : List (Except Error Atomic)) :
    (collect (atoms.map (Except.map .atomic))).map (List.filterMap Item.atomic?) =
      drained atoms := by
  induction atoms with
  | nil => rfl
  | cons v atoms ih =>
    cases v with
    | error e => rfl
    | ok a =>
      rw [drained, ← ih]
      simp only [List.map_cons, Except.map, collect, firstError?, leadingItems]
      cases firstError? (atoms.map (Except.map .atomic)) <;> rfl

theorem anyCompares_eq (op : ComparisonOp) (a : Atomic) (ctx : ValueContext)
    (values : List Atomic) :
    anyCompares op a ctx values =
      firstDecision (values.map fun b => Atomic.generalPair op a b ctx) := by
  induction values with
  | nil => rfl
  | cons b values ih =>
    rw [anyCompares, List.map_cons]
    match hpair : Atomic.generalPair op a b ctx with
    | .ok false => exact ih
    | .ok true => rfl
    | .error f => rfl

/-- One item of the left sequence, tried with all values on the right. -/
def ComparisonOp.tryItem (op : ComparisonOp) (ctx : ValueContext) (values : List Atomic) (_ : Unit)
    (x : Item) : Cursor.Progress Unit (Outcome Bool) :=
  match x with
  | .node _ => .more ()
  | .atomic a =>
    match anyCompares op a ctx values with
    | .ok false => .more ()
    | r => .stop r

/-- Going through the left sequence tries one value after the other. -/
theorem foldItems_trials (op : ComparisonOp) (ctx : ValueContext)
    (left : List (Except Error Atomic)) (values : List Atomic) :
    foldItems Failure.error (op.tryItem ctx values) (fun _ => false) ()
        (left.map (Except.map .atomic)) =
      firstDecision (op.trials ctx left values) := by
  induction left with
  | nil => rfl
  | cons v left ih =>
    cases v with
    | error e => rfl
    | ok a =>
      have htrials : op.trials ctx (.ok a :: left) values =
          (values.map fun b => Atomic.generalPair op a b ctx) ++ op.trials ctx left values := rfl
      rw [htrials, firstDecision_append, ← anyCompares_eq]
      simp only [List.map_cons, Except.map, foldItems, ComparisonOp.tryItem]
      cases anyCompares op a ctx values with
      | error f => rfl
      | ok found =>
        cases found with
        | false => exact ih
        | true => rfl

namespace Stream

variable {content : Nat → List Entry} {s : Store} {t u : Stream} {a b : List Entry}

/-- A fresh reader of the values has all of them left. -/
theorem Lists.left_atomize (h : t.Lists content s a) (F : Forest) :
    (t.cursor.atomize F).Left content s ((atomsOf F a).map (Except.map .atomic)) := by
  have hleft := (h.atomize F).left
  rw [flatMap_atomized] at hleft
  have hfresh : (t.atomize F).cursor.restart = t.cursor.atomize F := by
    show Cursor.expand F.nodeValues t.cursor.restart.restart [] = _
    rw [Cursor.restart_restart]
    rfl
  rw [hfresh] at hleft
  exact hleft

theorem Lists.values_atomize (h : t.Lists content s a) (F : Forest) :
    ∃ s', (t.cursor.atomize F).values s = (drained (atomsOf F a), s') ∧
      s.Follows content s.buffers.size s' := by
  obtain ⟨s', hlist, hfollows⟩ := (h.left_atomize F).toList
  refine ⟨s', ?_, hfollows⟩
  rw [← collect_atomized]
  unfold Cursor.values
  cases hcollect : collect ((atomsOf F a).map (Except.map .atomic)) with
  | ok items =>
    rw [hcollect] at hlist
    exact Fetch.bind_ok hlist
  | error e =>
    rw [hcollect] at hlist
    exact Fetch.bind_error hlist

/-- The general comparison of two streams depends only on the values of their sequences. -/
theorem Lists.generalCompare (ht : t.Lists content s a) (hu : u.Lists content s b)
    (op : ComparisonOp) (F : Forest) (ctx : ValueContext) :
    ∃ s', XPathData.generalCompare op F t u ctx s =
        (op.general ctx (atomsOf F a) (atomsOf F b), s') ∧
      s.Follows content s.buffers.size s' := by
  obtain ⟨s', hvalues, hfollows⟩ := hu.values_atomize F
  unfold ComparisonOp.general
  cases hdrained : drained (atomsOf F b) with
  | error e =>
    rw [hdrained] at hvalues
    exact ⟨s', Evaluation.bind_error hvalues, hfollows⟩
  | ok values =>
    rw [hdrained] at hvalues
    cases values with
    | nil => exact ⟨s', Evaluation.bind_ok hvalues, hfollows⟩
    | cons v values =>
      obtain ⟨s'', hread, hfollows'⟩ := ((ht.later hfollows).left_atomize F).readItems
        Failure.error (op.tryItem ctx (v :: values)) (fun _ => false) ()
      rw [foldItems_trials] at hread
      exact ⟨s'', (Evaluation.bind_ok hvalues).trans hread, hfollows.andThen hfollows'⟩

end Stream

/-! ### Exchanged operands -/

namespace Atomic

variable {op : ComparisonOp} {a b : Atomic} {ctx : ValueContext}

/-- An untyped value is brought to the type of the other one on either side of it. -/
theorem generalOperands_swap (a b : Atomic) (ctx : ValueContext) :
    generalOperands b a ctx = (generalOperands a b ctx).map Prod.swap := by
  have hmap (r : Except Error Atomic) (c : Atomic) :
      r.map (c, ·) = (r.map (·, c)).map Prod.swap ∧
        r.map (·, c) = (r.map (c, ·)).map Prod.swap := by
    cases r <;> exact ⟨rfl, rfl⟩
  by_cases ha : ∃ s, a = untyped s
  · obtain ⟨s, rfl⟩ := ha
    by_cases hb : ∃ t, b = untyped t
    · obtain ⟨t, rfl⟩ := hb
      rfl
    · have hb (t : String) (h : b = untyped t) : False := hb ⟨t, h⟩
      rw [generalOperands.eq_2 _ _ _ hb, generalOperands.eq_3 _ _ _ hb]
      exact (hmap _ _).1
  · have ha (s : String) (h : a = untyped s) : False := ha ⟨s, h⟩
    by_cases hb : ∃ t, b = untyped t
    · obtain ⟨t, rfl⟩ := hb
      rw [generalOperands.eq_2 _ _ _ ha, generalOperands.eq_3 _ _ _ ha]
      exact (hmap _ _).2
    · have hb (t : String) (h : b = untyped t) : False := hb ⟨t, h⟩
      rw [generalOperands.eq_4 _ _ _ hb ha fun s _ h _ => hb s h,
        generalOperands.eq_4 _ _ _ ha hb fun s _ h _ => ha s h]
      rfl

/-- A converse operator on exchanged values decides alike. -/
theorem compareBy_converse (a b : Atomic) {v : Bool} (h : compareBy op a b ctx = .ok v) :
    compareBy op.converse b a ctx = .ok v := by
  obtain ⟨r, hr, hop⟩ := compareBy_eq_ok_iff.1 h
  refine compareBy_eq_ok_iff.2 ⟨r.swap, ?_, ?_⟩
  · rw [relate?_swap, hr]
    rfl
  · rw [decideOp_converse, hop]

theorem generalPair_converse {v : Bool} (h : generalPair op a b ctx = .ok v) :
    generalPair op.converse b a ctx = .ok v := by
  unfold generalPair at h ⊢
  rw [generalOperands_swap]
  cases hoperands : generalOperands a b ctx with
  | error e =>
    rw [hoperands] at h
    cases h
  | ok p =>
    rw [hoperands] at h
    exact compareBy_converse p.1 p.2 h

end Atomic

namespace ComparisonOp

variable {op : ComparisonOp} {ctx : ValueContext}

/-! ### What the comparison comes to -/

theorem general_of_values (h : right = values.map .ok) (hne : values ≠ []) :
    op.general ctx left right = firstDecision (op.trials ctx left values) := by
  rw [general, drained_eq_ok_iff.2 h]
  cases values with
  | nil => exact absurd rfl hne
  | cons b values => rfl

theorem general_of_error {e : Error} (h : drained right = .error e) :
    op.general ctx left right = .error (.error e) := by
  rw [general, h]

/-- Values alone, none or some, or a failure among them. -/
theorem right_cases (right : List (Except Error Atomic)) :
    right = [] ∨ (∃ values : List Atomic, right = values.map .ok ∧ values ≠ []) ∨
      ∃ e, drained right = .error e := by
  cases hdrained : drained right with
  | error e => exact .inr (.inr ⟨e, rfl⟩)
  | ok values =>
    have hright := drained_eq_ok_iff.1 hdrained
    cases values with
    | nil => exact .inl hright
    | cons b values => exact .inr (.inl ⟨b :: values, hright, List.cons_ne_nil _ _⟩)

/-- Without a value on the right nothing is tried with a value. -/
theorem not_mem_trials_nil (op : ComparisonOp) (ctx : ValueContext)
    (left : List (Except Error Atomic)) : .ok true ∉ op.trials ctx left [] := by
  intro h
  rcases mem_trials.1 h with ⟨a, b, -, hb, -⟩ | ⟨e, -, he⟩
  · cases hb
  · cases he

theorem general_eq_true_iff :
    op.general ctx left right = .ok true ↔
      ∃ values : List Atomic, right = values.map .ok ∧
        ∃ before after, op.trials ctx left values = before ++ .ok true :: after ∧
          ∀ t ∈ before, ∃ v, t = .ok v := by
  constructor
  · intro h
    rcases right_cases right with rfl | ⟨values, hright, hne⟩ | ⟨e, he⟩
    · cases h
    · rw [general_of_values hright hne] at h
      exact ⟨values, hright, firstDecision_eq_true_iff.1 h⟩
    · rw [general_of_error he] at h
      cases h
  · rintro ⟨values, hright, hfirst⟩
    have hne : values ≠ [] := by
      rintro rfl
      obtain ⟨before, after, htrials, -⟩ := hfirst
      apply not_mem_trials_nil op ctx left
      rw [htrials]
      exact List.mem_append_right _ List.mem_cons_self
    rw [general_of_values hright hne]
    exact firstDecision_eq_true_iff.2 hfirst

theorem general_eq_false_iff :
    op.general ctx left right = .ok false ↔
      right = [] ∨ ∃ values : List Atomic, right = values.map .ok ∧
        ∀ t ∈ op.trials ctx left values, t = .ok false := by
  constructor
  · intro h
    rcases right_cases right with hnil | ⟨values, hright, hne⟩ | ⟨e, he⟩
    · exact .inl hnil
    · rw [general_of_values hright hne] at h
      exact .inr ⟨values, hright, firstDecision_eq_false_iff.1 h⟩
    · rw [general_of_error he] at h
      cases h
  · rintro (rfl | ⟨values, hright, hall⟩)
    · rfl
    · cases values with
      | nil =>
        subst hright
        rfl
      | cons b values =>
        rw [general_of_values hright (List.cons_ne_nil b values)]
        exact firstDecision_eq_false_iff.2 hall

theorem general_eq_error_iff {f : Failure} :
    op.general ctx left right = .error f ↔
      (∃ (values : List Atomic) (e : Error) (rest : _),
        right = values.map .ok ++ .error e :: rest ∧ f = .error e) ∨
      ∃ values : List Atomic, right = values.map .ok ∧ values ≠ [] ∧
        ∃ before after, op.trials ctx left values = before ++ .error f :: after ∧
          ∀ t ∈ before, t = .ok false := by
  constructor
  · intro h
    rcases right_cases right with rfl | ⟨values, hright, hne⟩ | ⟨e, he⟩
    · cases h
    · rw [general_of_values hright hne] at h
      exact .inr ⟨values, hright, hne, (firstDecision_eq_iff (by simp)).1 h⟩
    · rw [general_of_error he] at h
      cases h
      obtain ⟨values, rest, hright⟩ := drained_eq_error_iff.1 he
      exact .inl ⟨values, e, rest, hright, rfl⟩
  · rintro (⟨values, e, rest, hright, rfl⟩ | ⟨values, hright, hne, hfirst⟩)
    · exact general_of_error (drained_eq_error_iff.2 ⟨values, rest, hright⟩)
    · rw [general_of_values hright hne]
      exact (firstDecision_eq_iff (by simp)).2 hfirst

/-- A pair that compares one way is among the trials of the other way and compares there too. -/
theorem general_of_converse_true (h : op.general ctx left right = .ok true) {w : Bool}
    (hw : op.converse.general ctx right left = .ok w) : w = true := by
  obtain ⟨values, rfl, before, after, htrials, -⟩ := general_eq_true_iff.1 h
  have hmem : .ok true ∈ op.trials ctx left values := by
    rw [htrials]
    exact List.mem_append_right _ List.mem_cons_self
  obtain ⟨a, b, ha, hb, hpair⟩ : ∃ a b, .ok a ∈ left ∧ b ∈ values ∧
      .ok true = Atomic.generalPair op a b ctx := by
    rcases mem_trials.1 hmem with hpair | ⟨e, -, he⟩
    · exact hpair
    · cases he
  have hconverse := Atomic.generalPair_converse hpair.symm
  cases w with
  | true => rfl
  | false =>
    rcases general_eq_false_iff.1 hw with rfl | ⟨leftValues, rfl, hall⟩
    · cases ha
    · have hin : Atomic.generalPair op.converse b a ctx ∈
          op.converse.trials ctx (values.map .ok) leftValues := by
        refine mem_trials.2 (.inl ⟨b, a, List.mem_map.2 ⟨b, hb, rfl⟩, ?_, rfl⟩)
        simpa using ha
      have hfalse := hall _ hin
      rw [hconverse] at hfalse
      cases hfalse

theorem converse_converse (op : ComparisonOp) : op.converse.converse = op := by
  cases op <;> rfl

/-- Two comparisons that succeed decide alike. -/
theorem general_symmetric {v w : Bool} (hv : op.general ctx left right = .ok v)
    (hw : op.converse.general ctx right left = .ok w) : v = w := by
  cases v with
  | true => exact (general_of_converse_true hv hw).symm
  | false =>
    cases w with
    | false => rfl
    | true =>
      -- The other comparison is the first one with its operands exchanged once more.
      rw [← converse_converse op] at hv
      exact general_of_converse_true hw hv

end ComparisonOp

/-! ### Streams that are made -/

/-- The general comparison of two streams over one store, whatever was read of them or of their
    copies before. It holds exactly if the right sequence has no failure and some trial holds
    with no failure among those before it. It does not hold exactly if the right sequence has no
    value, or nothing fails and no trial holds. Otherwise it has the first failure: that of the
    right sequence, or of the trials. Done behind it with the operands exchanged, the converse
    comparison has the same result if neither fails. -/
theorem Pool.general_comparison (actions : List Action) (i j : Nat) (t u : Stream)
    (ht : t.cursor = (Pool.run actions).cursor i) (hu : u.cursor = (Pool.run actions).cursor j)
    (op : ComparisonOp) (F : Forest) (ctx : ValueContext) :
    let left := atomsOf F (Replay.shapeOf (Replay.run actions) i).entries
    let right := atomsOf F (Replay.shapeOf (Replay.run actions) j).entries
    let compared := generalCompare op F t u ctx (Pool.run actions).store
    let exchanged := generalCompare op.converse F u t ctx compared.2
    (compared.1 = .ok true ↔
      ∃ values : List Atomic, right = values.map .ok ∧
        ∃ before after, op.trials ctx left values = before ++ .ok true :: after ∧
          ∀ t ∈ before, ∃ v, t = .ok v) ∧
    (compared.1 = .ok false ↔
      right = [] ∨ ∃ values : List Atomic, right = values.map .ok ∧
        ∀ t ∈ op.trials ctx left values, t = .ok false) ∧
    (∀ f, compared.1 = .error f ↔
      (∃ (values : List Atomic) (e : Error) (rest : _),
        right = values.map .ok ++ .error e :: rest ∧ f = .error e) ∨
      ∃ values : List Atomic, right = values.map .ok ∧ values ≠ [] ∧
        ∃ before after, op.trials ctx left values = before ++ .error f :: after ∧
          ∀ t ∈ before, t = .ok false) ∧
    ∀ v w, compared.1 = .ok v → exchanged.1 = .ok w → v = w := by
  intro left right compared exchanged
  obtain ⟨content, hfollows⟩ := Pool.exists_follows actions
  have hleft := Stream.Lists.of_handle hfollows ht
  have hright := Stream.Lists.of_handle hfollows hu
  obtain ⟨s', hrun, hlater⟩ := hleft.generalCompare hright op F ctx
  obtain ⟨s'', hexchanged, -⟩ :=
    (hright.later hlater).generalCompare (hleft.later hlater) op.converse F ctx
  have hcompared : compared = (op.general ctx left right, s') := hrun
  have hstore : exchanged = (op.converse.general ctx right left, s'') := by
    show generalCompare op.converse F u t ctx compared.2 = _
    rw [hcompared]
    exact hexchanged
  rw [hcompared, hstore]
  refine ⟨ComparisonOp.general_eq_true_iff, ComparisonOp.general_eq_false_iff,
    fun f => ComparisonOp.general_eq_error_iff, ?_⟩
  intro v w hv hw
  exact ComparisonOp.general_symmetric hv hw

/-- The second of three values compares, and the third, which could not be compared, is not
    tried. -/
theorem Pool.general_comparison_second_value :
    let p := Pool.run [.items [.atomic (.boolean false), .atomic (.untyped "true"),
      .atomic (.hexBinary "")], .produce "p" [.ok (.atomic (.boolean true))], .next 1]
    (generalCompare .eq (.empty .plain) (.ofCursor (p.cursor 0)) (.ofCursor (p.cursor 1)) .standard
      p.store).1 = .ok true := by
  intro p
  refine (Pool.general_comparison _ 0 1 (.ofCursor (p.cursor 0)) (.ofCursor (p.cursor 1)) rfl rfl
    .eq (.empty .plain) .standard).1.2 ⟨[.boolean true], rfl, [.ok false],
      [Atomic.generalPair .eq (.hexBinary "") (.boolean true) .standard], ?_, ?_⟩
  · decide
  · intro t ht
    exact ⟨false, List.mem_singleton.1 ht⟩

end XPathData
