import XPathData.Proofs.Sequence.SetAlgebra

/-! # Set operations in the order of the operands

  An unordered set operation finds its result while it is read, with the nodes that it has given
  out kept aside and its operands read one after the other. What it gives can be told without any
  of that: the different nodes in the order in which they are first met, and then the failure that
  is met behind them.

  * `SetOp.listing` — the entries that a set operation should give
  * `SetOp.outcome_startPhase` — reading it gives these entries
  * `Stream.Lists.ordered_of_listing` — when there is a result in document order
  * `Pool.unordered_algebra` — both, for all handles and their copies
-/

namespace XPathData

/-! ### Entries that should be nodes -/

/-- The nodes before the first entry that is none. -/
def leadingNodes : List Entry → List NodeId
  | .ok (.node n) :: l => n :: leadingNodes l
  | _ => []

namespace SetOp

/-- The failure of a reading of nodes: of the first value among them, or the first error. -/
def failure? (op : SetOp) : List Entry → Option Error
  | [] => none
  | .ok (.node _) :: l => op.failure? l
  | .ok (.atomic a) :: _ => some (notNode op.symbol a)
  | .error e :: _ => some e

/-- The entries that a set operation gives the nodes of. -/
def scanned (op : SetOp) (a b : List Entry) : List Entry :=
  match op with
  | union => a ++ b
  | intersect | except => a

/-- The failure of the right operand, where it is read before the left one. -/
def failureAhead? (op : SetOp) (b : List Entry) : Option Error :=
  match op with
  | union => none
  | intersect | except => op.failure? b

/-- The entries of an unordered set operation: the different nodes that are wanted, in the order
    in which they are first met, and then the failure that ends the reading of them. Where the
    right operand is read first, its failure is all there is. -/
def listing (op : SetOp) (a b : List Entry) : List Entry :=
  match op.failureAhead? b with
  | some e => [.error e]
  | none =>
    ((leadingNodes (op.scanned a b)).filter (op.wants (leadingNodes b))).eraseDups.map
        (fun n => .ok (.node n)) ++
      (op.failure? (op.scanned a b)).toList.map .error

variable {op : SetOp} {a b l : List Entry}

/-! ### The machine gives these entries -/

/-- What is chosen from a left operand, the nodes in `seen` left out: the induction has to take
    any `seen`, which grows by each node that is given out. -/
theorem chosen_eq (op : SetOp) (other seen : List NodeId) (l : List Entry) :
    op.chosen other seen l =
      ((leadingNodes l).filter fun n => op.wants other n && !seen.contains n).eraseDups.map
          (fun n => .ok (.node n)) ++
        (op.failure? l).toList.map .error := by
  induction l generalizing seen with
  | nil => rfl
  | cons e l ih =>
    match e with
    | .error e => rfl
    | .ok (.atomic a) => rfl
    | .ok (.node n) =>
      simp only [chosen, leadingNodes, failure?]
      by_cases hn : (op.wants other n && !seen.contains n) = true
      · have hfilter : ((leadingNodes l).filter fun m =>
            op.wants other m && !(n :: seen).contains m) =
            ((leadingNodes l).filter fun m => op.wants other m && !seen.contains m).filter
              fun m => !m == n := by
          rw [List.filter_filter]
          congr 1
          funext m
          rw [List.contains_cons, Bool.not_or]
          ac_rfl
        rw [if_pos hn, ih, List.filter_cons, if_pos hn, List.eraseDups_cons, hfilter]
        rfl
      · rw [if_neg hn, ih, List.filter_cons, if_neg hn]

theorem gathered_eq (op : SetOp) (found : List NodeId) (l : List Entry) :
    op.gathered found l =
      match op.failure? l with
      | some e => .error e
      | none => .ok ((leadingNodes l).reverse ++ found) := by
  induction l generalizing found with
  | nil => rfl
  | cons e l ih =>
    match e with
    | .error e => rfl
    | .ok (.atomic a) => rfl
    | .ok (.node n) =>
      simp only [gathered, failure?, leadingNodes, ih, List.reverse_cons, List.append_assoc,
        List.singleton_append]

/-- Only which nodes the right operand has matters, not their order. -/
theorem wants_reverse (op : SetOp) (l : List NodeId) : op.wants l.reverse = op.wants l := by
  funext n
  cases op with
  | union => rfl
  | intersect | except => simp only [wants, List.contains_reverse]

/-- Nothing was given out yet. -/
theorem chosen_nil_eq (op : SetOp) (other : List NodeId) (l : List Entry) :
    op.chosen other [] l =
      ((leadingNodes l).filter (op.wants other)).eraseDups.map (fun n => .ok (.node n)) ++
        (op.failure? l).toList.map .error := by
  rw [chosen_eq]
  simp only [List.contains_nil, Bool.not_false, Bool.and_true]

/-- Reading an unordered set operation from its start gives its listing. -/
theorem outcome_startPhase (op : SetOp) (a b : List Entry) :
    op.outcome (op.scanned a b) b (Cursor.startPhase op) = op.listing a b := by
  cases op with
  | union => exact union.chosen_nil_eq [] _
  | intersect | except =>
    simp only [outcome, Cursor.startPhase, listing, gathered_eq, failureAhead?, scanned]
    cases failure? _ b with
    | none => simp only [chosen_nil_eq, List.append_nil, wants_reverse]
    | some e => rfl

theorem entries_select (op : SetOp) (a b : Shape) :
    (Shape.select op a b).entries = op.listing a.entries b.entries := by
  rw [← outcome_startPhase]
  cases op <;> rfl

/-! ### Failures -/

theorem failure?_append (op : SetOp) (a b : List Entry) :
    op.failure? (a ++ b) = (op.failure? a).or (op.failure? b) := by
  induction a with
  | nil => rfl
  | cons e a ih =>
    match e with
    | .ok (.node n) => exact ih
    | .ok (.atomic x) => rfl
    | .error e => rfl

theorem leadingNodes_append (h : op.failure? a = none) (b : List Entry) :
    leadingNodes (a ++ b) = leadingNodes a ++ leadingNodes b := by
  induction a with
  | nil => rfl
  | cons e a ih =>
    match e with
    | .ok (.node n) => exact congrArg (n :: ·) (ih h)
    | .ok (.atomic x) => cases h
    | .error e => cases h

end SetOp

/-! ### Reading nodes -/

variable {content : Nat → List Entry} {s : Store} {op : SetOp} {entries : List Entry}

theorem collect_cons_ok (x : Item) (l : List Entry) :
    collect (.ok x :: l) = (collect l).map (x :: ·) := by
  simp only [collect, firstError?, leadingItems]
  cases firstError? l <;> rfl

/-- Items with a failure behind them. -/
theorem collect_items_then (items : List Item) (fault : Option Error) :
    collect (items.map .ok ++ fault.toList.map .error) =
      match fault with
      | none => .ok items
      | some e => .error e := by
  induction items with
  | nil => cases fault <;> rfl
  | cons x items ih =>
    rw [List.map_cons, List.cons_append, collect_cons_ok, ih]
    cases fault <;> rfl

/-- Reading nodes gives the leading ones, unless a value or an error is among them. -/
theorem foldItems_nodes (op : SetOp) (found : List NodeId) (entries : List Entry) :
    foldItems id
        (fun l x =>
          match x with
          | .node n => .more (n :: l)
          | .atomic a => .stop (.error (notNode op.symbol a)))
        List.reverse found entries =
      match op.failure? entries with
      | some e => .error e
      | none => .ok (found.reverse ++ leadingNodes entries) := by
  induction entries generalizing found with
  | nil => exact congrArg Except.ok (List.append_nil _).symm
  | cons e entries ih =>
    match e with
    | .error e => rfl
    | .ok (.atomic a) => rfl
    | .ok (.node n) =>
      simp only [foldItems, SetOp.failure?, leadingNodes, ih, List.reverse_cons, List.append_assoc,
        List.singleton_append]

theorem Stream.Lists.nodes {t : Stream} (h : t.Lists content s entries) (op : SetOp) :
    ∃ s', t.nodes op.symbol s =
        (match op.failure? entries with
         | some e => .error e
         | none => .ok (leadingNodes entries), s') ∧
      s.Follows content s.buffers.size s' := by
  obtain ⟨s', hread, hfollows⟩ := h.left.readItems id
    (fun l x =>
      match x with
      | .node n => .more (n :: l)
      | .atomic a => .stop (.error (notNode op.symbol a)))
    List.reverse []
  refine ⟨s', ?_, hfollows⟩
  rw [foldItems_nodes] at hread
  exact hread

/-! ### The result in document order -/

namespace Stream

variable {F : Forest} {t u : Stream} {a b : List Entry}

theorem mem_combine (op : SetOp) (F : Forest) (l r : List NodeId) (n : NodeId) :
    n ∈ (combine op F l r).2 ↔ n ∈ (op.sorted l r).filter (op.wants r) := by
  rw [List.mem_filter]
  cases op with
  | union =>
    show n ∈ (F.inDocumentOrder (l ++ r)).2 ↔ n ∈ l ++ r ∧ true = true
    rw [Forest.mem_inDocumentOrder, and_iff_left rfl]
  | intersect | except =>
    show n ∈ ((F.inDocumentOrder l).2.filter _) ↔ n ∈ l ∧ _
    rw [List.mem_filter, Forest.mem_inDocumentOrder]

/-- The sequence of an unordered operation is its listing. -/
theorem Lists.unordered (ht : t.Lists content s a) (hu : u.Lists content s b) (op : SetOp) :
    (unordered op t u).Lists content s (op.listing a b) where
  holds := ht.holds
  sound := by
    cases op with
    | union => exact ⟨⟨ht.sound.restart, hu.sound.restart⟩, trivial⟩
    | intersect | except => exact ⟨ht.sound.restart, hu.sound.restart⟩
  whole := by
    rw [← ht.whole, ← hu.whole, ← SetOp.outcome_startPhase]
    cases op with
    | union =>
      show SetOp.union.outcome
        (t.cursor.restart.restart.remaining content ++ u.cursor.restart.restart.remaining content)
        [] _ = _
      rw [Cursor.restart_restart, Cursor.restart_restart]
      rfl
    | intersect | except =>
      show SetOp.outcome _ (t.cursor.restart.restart.remaining content)
        (u.cursor.restart.restart.remaining content) _ = _
      rw [Cursor.restart_restart, Cursor.restart_restart]
      rfl

theorem nodup_combine (op : SetOp) (F : Forest) (l r : List NodeId) :
    (combine op F l r).2.Nodup := by
  cases op with
  | union => exact F.nodup_inDocumentOrder _
  | intersect | except => exact (F.nodup_inDocumentOrder _).filter _

/-- Two sequences of nodes are combined. -/
theorem Lists.ordered_of_nodes {op : SetOp} (ht : t.Lists content s a) (hu : u.Lists content s b)
    (ha : op.failure? a = none) (hb : op.failure? b = none) :
    ∃ s', ordered op F t u s =
      (.ok ((combine op F (leadingNodes a) (leadingNodes b)).1,
        ofNodes (combine op F (leadingNodes a) (leadingNodes b)).2), s') := by
  obtain ⟨s', hl, hfollows⟩ := ht.nodes op
  obtain ⟨s'', hr, -⟩ := (hu.later hfollows).nodes op
  rw [ha] at hl
  rw [hb] at hr
  exact ⟨s'', (Fetch.bind_ok hl).trans (Fetch.bind_ok hr)⟩

/-- A sequence that is not one of nodes cannot be combined. -/
theorem Lists.ordered_of_failure {op : SetOp} (ht : t.Lists content s a)
    (hu : u.Lists content s b) {e : Error} (h : (op.failure? a).or (op.failure? b) = some e) :
    ∃ s', ordered op F t u s = (.error e, s') := by
  obtain ⟨s', hl, hfollows⟩ := ht.nodes op
  obtain ⟨s'', hr, -⟩ := (hu.later hfollows).nodes op
  cases ha : op.failure? a with
  | some e' =>
    rw [ha] at h hl
    cases h
    exact ⟨s', Fetch.bind_error hl⟩
  | none =>
    rw [ha] at h hl
    rw [Option.none_or] at h
    rw [h] at hr
    exact ⟨s'', (Fetch.bind_ok hl).trans (Fetch.bind_error hr)⟩

end Stream

namespace SetOp

variable {a b : List Entry}

/-- Where both operands are sequences of nodes, the listing gives the nodes that are wanted. -/
theorem collect_listing_of_nodes (ha : op.failure? a = none) (hb : op.failure? b = none) :
    collect (op.listing a b) =
      .ok ((((op.sorted (leadingNodes a) (leadingNodes b)).filter
        (op.wants (leadingNodes b))).eraseDups).map .node) := by
  have hahead : op.failureAhead? b = none := by
    cases op with
    | union => rfl
    | intersect | except => exact hb
  have hfailure : op.failure? (op.scanned a b) = none := by
    cases op with
    | union => rw [scanned, failure?_append, ha, hb, Option.none_or]
    | intersect | except => exact ha
  have hscanned : leadingNodes (op.scanned a b) = op.sorted (leadingNodes a) (leadingNodes b) := by
    cases op with
    | union => exact leadingNodes_append ha b
    | intersect | except => rfl
  have hcollect := collect_items_then
    ((((op.sorted (leadingNodes a) (leadingNodes b)).filter
      (op.wants (leadingNodes b))).eraseDups).map .node) none
  rw [List.map_map] at hcollect
  rw [listing, hahead, hfailure, hscanned]
  exact hcollect

/-- Where an operand is no sequence of nodes, the listing fails. -/
theorem collect_listing_of_failure {e : Error}
    (h : (op.failure? a).or (op.failure? b) = some e) :
    ∃ e', collect (op.listing a b) = .error e' := by
  rw [listing]
  cases hahead : op.failureAhead? b with
  | some e' => exact ⟨e', rfl⟩
  | none =>
    -- The right operand of an intersection or a difference did not fail, so the left one did.
    have hfailure : op.failure? (op.scanned a b) = some e := by
      cases op with
      | union => rw [scanned, failure?_append, h]
      | intersect | except =>
        have hb : failure? _ b = none := hahead
        rwa [hb, Option.or_none] at h
    have hcollect := collect_items_then
      ((((leadingNodes (op.scanned a b)).filter
        (op.wants (leadingNodes b))).eraseDups).map .node) (some e)
    rw [List.map_map] at hcollect
    exact ⟨e, by rw [hfailure]; exact hcollect⟩

end SetOp

/-- The result in document order is there exactly if the listing has no failure, and has the same
    nodes then. -/
theorem Stream.Lists.ordered_of_listing {t u : Stream} {a b : List Entry}
    (ht : t.Lists content s a) (hu : u.Lists content s b) (op : SetOp) (F : Forest) :
    (∀ items, collect (op.listing a b) = .ok items → ∃ G l out s', items = l.map .node ∧
      Stream.ordered op F t u s = (.ok (G, .ofNodes out), s') ∧ out.Perm l) ∧
    ∀ e, collect (op.listing a b) = .error e → ∃ e' s',
      Stream.ordered op F t u s = (.error e', s') := by
  cases hfailure : (op.failure? a).or (op.failure? b) with
  | none =>
    obtain ⟨ha, hb⟩ := Option.or_eq_none_iff.1 hfailure
    rw [SetOp.collect_listing_of_nodes ha hb]
    constructor
    · rintro items ⟨⟩
      obtain ⟨s', hordered⟩ := ht.ordered_of_nodes (F := F) hu ha hb
      refine ⟨_, _, _, s', rfl, hordered, ?_⟩
      -- Neither list repeats a node, so having the same nodes is all that is to be shown.
      rw [List.perm_ext_iff_of_nodup (Stream.nodup_combine op F _ _) (nodup_eraseDups _)]
      intro n
      rw [Stream.mem_combine, List.mem_eraseDups]
    · rintro e ⟨⟩
  | some e =>
    obtain ⟨e', he'⟩ := SetOp.collect_listing_of_failure hfailure
    rw [he']
    constructor
    · rintro items ⟨⟩
    · rintro - -
      obtain ⟨s', hordered⟩ := ht.ordered_of_failure (F := F) hu hfailure
      exact ⟨e, s', hordered⟩

/-! ### All handles -/

/-- Handles of an unordered set operation, its copies among them, answer with its listing: the
    different nodes that are wanted, in the order in which they are first met, and then the first
    failure. For any two sequences the result in document order is there exactly if reading the
    unordered one meets no failure, and has the same nodes then. -/
theorem Pool.unordered_algebra (actions : List Action) :
    let p := Pool.run actions
    let rs := Replay.run actions
    (∀ (k : Nat) (op : SetOp) (a b : Shape) (n : Nat), rs[k]? = some ⟨.select op a b, n⟩ →
      ∃ h, p.handles[k]? = some h ∧
        h.answers = (List.range n).map fun m => (op.listing a.entries b.entries)[m]?) ∧
    ∀ (op : SetOp) (i j : Nat) (F : Forest),
      let t := Stream.ofCursor (p.cursor i)
      let u := Stream.ofCursor (p.cursor j)
      let found := ((Stream.unordered op t u).toList p.store).1
      found = collect (op.listing (Replay.shapeOf rs i).entries (Replay.shapeOf rs j).entries) ∧
      (∀ items, found = .ok items → ∃ G l out s', items = l.map .node ∧
        Stream.ordered op F t u p.store = (.ok (G, .ofNodes out), s') ∧ out.Perm l) ∧
      ∀ e, found = .error e → ∃ e' s', Stream.ordered op F t u p.store = (.error e', s') := by
  intro p rs
  obtain ⟨content, hfollows⟩ := (Pool.Follows.empty fun _ => []).foldl actions
  refine ⟨?_, ?_⟩
  · intro k op a b n hk
    have hlt : k < p.handles.length := hfollows.length_eq ▸ (List.getElem?_eq_some_iff.1 hk).1
    have hread := hfollows.handle k _ _ (List.getElem?_eq_getElem hlt) hk
    refine ⟨_, List.getElem?_eq_getElem hlt, ?_⟩
    rw [hread.answered, Replay.answers, SetOp.entries_select]
  · intro op i j F t u found
    -- What the replay of the actions says of a handle is what its cursor lists.
    obtain ⟨hsoundi, hwholei⟩ := hfollows.cursor i
    obtain ⟨hsoundj, hwholej⟩ := hfollows.cursor j
    have ht : t.Lists content p.store (Replay.shapeOf rs i).entries :=
      ⟨hfollows.holds, hsoundi, hwholei⟩
    have hu : u.Lists content p.store (Replay.shapeOf rs j).entries :=
      ⟨hfollows.holds, hsoundj, hwholej⟩
    have hfound : found =
        collect (op.listing (Replay.shapeOf rs i).entries (Replay.shapeOf rs j).entries) := by
      obtain ⟨s', htoList, -⟩ := (ht.unordered hu op).toList
      show ((Stream.unordered op t u).toList p.store).1 = _
      rw [htoList]
    refine ⟨hfound, ?_⟩
    rw [hfound]
    exact ht.ordered_of_listing hu op F

/-- A union of repeated nodes and of a producer that fails: a copy of it is read behind the
    failure, and no result in document order is made. The nodes alone have one. -/
theorem Pool.unordered_algebra_copy :
    let e : Error := .ofCode .invalidArgument "x"
    let p := Pool.run [.items [.node 2, .node 1, .node 2],
      .produce "p" [.ok (.node 1), .ok (.node 0), .error e, .ok (.node 3)], .select .union 0 1,
      .next 2, .clone 2, .next 3, .next 3, .next 3, .next 3, .next 3]
    (∃ h, p.handles[3]? = some h ∧
      h.answers = [some (.ok (.node 2)), some (.ok (.node 1)), some (.ok (.node 0)),
        some (.error e), none]) ∧
    (∃ e' s', Stream.ordered .union (.empty .plain) (.ofCursor (p.cursor 0))
      (.ofCursor (p.cursor 1)) p.store = (.error e', s')) ∧
    ∃ G out s', Stream.ordered .intersect (.empty .plain) (.ofCursor (p.cursor 0))
      (.ofCursor (p.cursor 0)) p.store = (.ok (G, .ofNodes out), s') ∧ out.Perm [2, 1] := by
  intro e p
  obtain ⟨hread, hordered⟩ := Pool.unordered_algebra [.items [.node 2, .node 1, .node 2],
    .produce "p" [.ok (.node 1), .ok (.node 0), .error e, .ok (.node 3)], .select .union 0 1,
    .next 2, .clone 2, .next 3, .next 3, .next 3, .next 3, .next 3]
  have hunion : collect (SetOp.union.listing [.ok (.node 2), .ok (.node 1), .ok (.node 2)]
      [.ok (.node 1), .ok (.node 0), .error e, .ok (.node 3)]) = .error e := rfl
  have hboth : collect (SetOp.intersect.listing [.ok (.node 2), .ok (.node 1), .ok (.node 2)]
      [.ok (.node 2), .ok (.node 1), .ok (.node 2)]) = .ok ([2, 1].map .node) := rfl
  refine ⟨?_, ?_, ?_⟩
  · exact hread 3 .union (.items [.node 2, .node 1, .node 2])
      (.produced [.ok (.node 1), .ok (.node 0), .error e, .ok (.node 3)]) 5 rfl
  · obtain ⟨hfound, -, hfails⟩ := hordered .union 0 1 (.empty .plain)
    exact hfails e (hfound.trans hunion)
  · obtain ⟨hfound, hitems, -⟩ := hordered .intersect 0 0 (.empty .plain)
    obtain ⟨G, l, out, s', hl, hout, hperm⟩ := hitems _ (hfound.trans hboth)
    have hnodes : [2, 1] = l := List.map_injective_iff.2 (fun _ _ => Item.node.inj) hl
    exact ⟨G, out, s', hout, hnodes ▸ hperm⟩

end XPathData
