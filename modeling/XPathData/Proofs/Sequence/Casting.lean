import XPathData.Proofs.Atomic.Cast
import XPathData.Proofs.Sequence.Typing
import XPathData.Tree.Build

/-! # Casting sequences

  The gate counts the items of the input, and the result holds their atomic values. A node may
  have none or many of these. Where at most one item is asked for, the only item must have as
  many values as the occurrence allows; where many are allowed, nothing is counted behind the
  gate. So a result that drains has the target type, except that it may be empty where it must
  not be.

  * `Stream.Lists.cast_checked`, `Stream.Lists.cast_values`, `Stream.Lists.cast_single` — the
    results of casts
  * `Stream.cast_has_type_iff` — when the result of a cast has the target type
-/

namespace XPathData

variable {content : Nat → List Entry} {s s' s'' : Store} {entries : List Entry}
  {items out : List Item}

/-! ### Lists of entries without errors -/

/-- Entries among which no error is are items. -/
theorem exists_items (h : ∀ e, (.error e : Entry) ∉ entries) :
    ∃ items : List Item, entries = items.map .ok := by
  refine ⟨leadingItems entries, eq_map_leading ?_⟩
  induction entries with
  | nil => rfl
  | cons e l ih =>
    cases e with
    | error e => exact absurd List.mem_cons_self (h e)
    | ok x => exact ih fun e he => h e (List.mem_cons_of_mem _ he)

theorem error_not_mem_map_ok (e : Error) (items : List Item) :
    (.error e : Entry) ∉ items.map .ok := by
  simp

/-- A function that has no errors as results was applied to no errors. -/
theorem exists_items_of_map {f : Item → Entry} (h : entries.map (fun e => e.bind f) = out.map .ok) :
    ∃ items : List Item, entries = items.map .ok := by
  refine exists_items fun e he => error_not_mem_map_ok e out ?_
  rw [← h]
  exact List.mem_map.2 ⟨.error e, he, rfl⟩

/-- What a function gives has a property, and so have all its results. -/
theorem forall_of_map {f : Item → Entry} {q : Item → Prop} (hf : ∀ x, Gives (f x) q)
    (h : entries.map (fun e => e.bind f) = out.map .ok) : ∀ y ∈ out, q y := by
  intro y hy
  have hmem : (.ok y : Entry) ∈ entries.map (fun e => e.bind f) := by
    rw [h]
    exact List.mem_map.2 ⟨y, hy, rfl⟩
  obtain ⟨e, -, he⟩ := List.mem_map.1 hmem
  cases e with
  | error e => cases he
  | ok x => exact hf x y he

/-! ### Types -/

namespace SequenceType

variable {F : Forest} {type : ItemType} {occ : Occurrence}

/-- Where all items are allowed, only their number decides. -/
theorem admits_items_of_forall (h : ∀ x ∈ items, type.admits F x = true) :
    (SequenceType.items type occ).admits F items = occ.admits items.length := by
  have hall : items.all ((SequenceType.items type occ).allowsItem F) = true :=
    List.all_eq_true.2 h
  rw [admits, hall, Bool.and_true, allowsCount]

end SequenceType

namespace Occurrence

variable {occ : Occurrence}

/-- What the gate accepts where one item is the most. -/
theorem of_verdict_accepts (hmany : occ.allowsMany = false)
    (h : occ.verdict entries = .accepts) :
    (entries = [] ∧ occ.allowsEmpty = true) ∨ ∃ x, entries = [.ok x] := by
  match entries with
  | [] =>
    refine .inl ⟨rfl, ?_⟩
    by_contra hno
    simp [verdict, hno] at h
  | .error e :: l => simp [verdict] at h
  | [.ok x] => exact .inr ⟨x, rfl⟩
  | .ok x :: .error e :: l => simp [verdict, hmany] at h
  | .ok x :: .ok y :: l => simp [verdict, hmany] at h

theorem admits_zero (occ : Occurrence) : occ.admits 0 = occ.allowsEmpty := by
  cases occ <;> rfl

theorem admits_one (occ : Occurrence) : occ.admits 1 = true := by
  cases occ <;> rfl

/-- Where many items are allowed, only an empty sequence can have too few. -/
theorem admits_iff_of_many (hmany : occ.allowsMany = true) (n : Nat) :
    occ.admits n = true ↔ ¬ (occ = .oneOrMore ∧ n = 0) := by
  cases occ with
  | one | zeroOrOne => cases hmany
  | zeroOrMore => simp [admits]
  | oneOrMore =>
    simp only [admits, decide_eq_true_eq, true_and]
    omega

end Occurrence

namespace Stream

variable {t u : Stream} {F : Forest} {type : ItemType} {a : AtomicType} {occ : Occurrence}
  {literal : Bool} {ctx : ValueContext}

/-! ### Results -/

theorem gives_checkItem (F : Forest) (type : ItemType) (code : ErrorCode) (x : Item) :
    Gives (checkItem F type code x) fun y => type.admits F y = true := by
  unfold checkItem
  split
  · next hx => exact Gives.ok hx
  · exact Gives.error _

namespace Lists

/-- A gate that lets a sequence pass has accepted its entries. -/
theorem gate_passed {code : ErrorCode} (h : t.Lists content s entries)
    (hgate : t.gate occ code s = (.ok u, s')) :
    occ.verdict entries = .accepts ∧ ∃ content' entries', u.Lists content' s' entries' ∧
      upToError entries' = upToError entries := by
  have hgated := h.gate occ code
  rw [hgate] at hgated
  cases hverdict : occ.verdict entries with
  | accepts =>
    rw [hverdict] at hgated
    obtain ⟨content', v, entries', hv, -, hlists, hagree⟩ := hgated
    cases hv
    exact ⟨rfl, content', entries', hlists, hagree⟩
  | refuses =>
    rw [hverdict] at hgated
    obtain ⟨e, he, -⟩ := hgated
    cases he
  | fails e =>
    rw [hverdict] at hgated
    cases hgated

/-- A result that drains is a list of items, which is another stream of its own. -/
theorem drained (h : u.Lists content s' entries) (hdrain : u.toList s' = (.ok out, s'')) :
    entries = out.map .ok ∧ (Stream.ofList out).Lists content s'' (out.map .ok) := by
  obtain ⟨s₁, hlist, hfollows⟩ := h.toList
  rw [hdrain] at hlist
  obtain ⟨hcollect, rfl⟩ := Prod.mk.inj hlist
  exact ⟨collect_eq_ok.1 hcollect.symm, .ofList hfollows.holds out⟩

/-- Types of nodes and items: the items that the gate counted are those of the result. -/
theorem cast_checked (h : t.Lists content s entries) (htype : ∀ a, type ≠ .atomic a)
    (hcast : t.cast F (.items type occ) literal ctx s = (.ok u, s'))
    (hdrain : u.toList s' = (.ok out, s'')) :
    (SequenceType.items type occ).admits F out = true ∧
      ∃ content', (Stream.ofList out).Lists content' s'' (out.map .ok) := by
  obtain ⟨g, s₁, hgate, hcast⟩ := Fetch.of_bind_ok hcast
  obtain ⟨hverdict, content', entries', hg, hagree⟩ := h.gate_passed hgate
  have hresult : u = g.map (checkItem F type .typeError) ∧ s' = s₁ := by
    cases type with
    | atomic a => exact absurd rfl (htype a)
    | item | node | nodeTest test =>
      cases hcast
      exact ⟨rfl, rfl⟩
  obtain ⟨rfl, rfl⟩ := hresult
  obtain ⟨hentries, hout⟩ := (hg.map _).drained hdrain
  obtain ⟨items, rfl⟩ := exists_items_of_map hentries
  have hlength : items.length = out.length := by simpa using congrArg List.length hentries
  have hsame := eq_of_upToError_eq hagree.symm
  subst hsame
  rw [SequenceType.admits_items_of_forall
    (forall_of_map (fun x => gives_checkItem F type .typeError x) hentries), ← hlength]
  exact ⟨Occurrence.admits_of_verdict hverdict, content', hout⟩

/-- Where many values are allowed all values of all items are cast, and nothing is counted any
    more. -/
theorem cast_values (h : t.Lists content s entries) (hmany : occ.allowsMany = true)
    (hcast : t.cast F (.items (.atomic a) occ) literal ctx s = (.ok u, s'))
    (hdrain : u.toList s' = (.ok out, s'')) :
    (∀ y ∈ out, (ItemType.atomic a).admits F y = true) ∧
      out.length = (entries.flatMap (Entry.atomized F)).length ∧
      ∃ content', (Stream.ofList out).Lists content' s'' (out.map .ok) := by
  obtain ⟨g, s₁, hgate, hcast⟩ := Fetch.of_bind_ok hcast
  obtain ⟨-, content', entries', hg, hagree⟩ := h.gate_passed hgate
  simp only [hmany, ↓reduceIte] at hcast
  cases hcast
  obtain ⟨hentries, hout⟩ := ((hg.atomize F).map _).drained hdrain
  obtain ⟨values, hvalues⟩ := exists_items_of_map hentries
  -- An error of the input would be one of the values.
  have hclean : ∃ items : List Item, entries' = items.map .ok := by
    refine exists_items fun e he => error_not_mem_map_ok e values ?_
    rw [← hvalues]
    exact List.mem_flatMap.2 ⟨.error e, he, List.mem_singleton.2 rfl⟩
  obtain ⟨items, rfl⟩ := hclean
  have hsame := eq_of_upToError_eq hagree.symm
  subst hsame
  refine ⟨forall_of_map (fun x => gives_castItem F a literal ctx x) hentries, ?_, content', hout⟩
  simpa using (congrArg List.length hentries).symm

/-- The values of the only item are counted behind the gate: the result has the type, if there
    is one. -/
theorem castSingle (h : t.Lists content s entries)
    (hone : (entries = [] ∧ occ.allowsEmpty = true) ∨ ∃ x, entries = [.ok x])
    (hcast : Stream.castSingle F t a occ literal ctx s = (.ok u, s')) :
    ∃ items : List Item, u.Lists content s' (items.map .ok) ∧
      (SequenceType.items (.atomic a) occ).admits F items = true := by
  have hnone (hempty : occ.allowsEmpty = true) :
      (SequenceType.items (.atomic a) occ).admits F [] = true := by
    rw [SequenceType.admits_items_of_forall (by simp), List.length_nil, occ.admits_zero, hempty]
  unfold Stream.castSingle at hcast
  rcases hone with ⟨rfl, hempty⟩ | ⟨x, rfl⟩
  · obtain ⟨s₁, hfirst, hfollows⟩ := h.first_nil
    rw [Fetch.bind_ok hfirst] at hcast
    cases hcast
    exact ⟨[], h.later hfollows, hnone hempty⟩
  · obtain ⟨s₁, hfirst, hfollows⟩ := h.first_ok
    rw [Fetch.bind_ok hfirst] at hcast
    obtain ⟨l, s₂, hvalues, hcast⟩ := Fetch.of_bind_ok hcast
    obtain ⟨-, rfl⟩ := Prod.mk.inj hvalues
    match l with
    | [] =>
      by_cases hempty : occ.allowsEmpty = true
      · simp only [hempty, ↓reduceIte] at hcast
        cases hcast
        exact ⟨[], .ofList hfollows.holds [], hnone hempty⟩
      · simp only [hempty] at hcast
        cases hcast
    | [b] =>
      obtain ⟨c, s₃, hread, hcast⟩ := Fetch.of_bind_ok hcast
      obtain ⟨hvalue, rfl⟩ := Prod.mk.inj hread
      cases hcast
      have hitem : castItem a literal ctx (.atomic b) = .ok (.atomic c) :=
        congrArg (Except.map Item.atomic) hvalue
      have hadmits := gives_castItem F a literal ctx (.atomic b) _ hitem
      refine ⟨[.atomic c], .ofList hfollows.holds [.atomic c], ?_⟩
      rw [SequenceType.admits_items_of_forall (by simpa using hadmits)]
      exact occ.admits_one
    | b :: c :: l => cases hcast

/-- Where one item is the most, the result has the type. -/
theorem cast_single (h : t.Lists content s entries) (hmany : occ.allowsMany = false)
    (hcast : t.cast F (.items (.atomic a) occ) literal ctx s = (.ok u, s'))
    (hdrain : u.toList s' = (.ok out, s'')) :
    (SequenceType.items (.atomic a) occ).admits F out = true ∧
      ∃ content', (Stream.ofList out).Lists content' s'' (out.map .ok) := by
  obtain ⟨g, s₁, hgate, hcast⟩ := Fetch.of_bind_ok hcast
  obtain ⟨hverdict, content', entries', hg, hagree⟩ := h.gate_passed hgate
  rw [← occ.verdict_upToError, ← hagree, occ.verdict_upToError] at hverdict
  simp only [hmany, Bool.false_eq_true, ↓reduceIte] at hcast
  obtain ⟨items, hu, hadmits⟩ := hg.castSingle (Occurrence.of_verdict_accepts hmany hverdict) hcast
  obtain ⟨hentries, hout⟩ := hu.drained hdrain
  have hsame : items = out := by simpa using congrArg leadingItems hentries
  exact ⟨hsame ▸ hadmits, content', hout⟩

theorem cast_empty (h : t.Lists content s entries)
    (hcast : t.cast F .empty literal ctx s = (.ok u, s'))
    (hdrain : u.toList s' = (.ok out, s'')) :
    out = [] ∧ (Stream.ofList out).Lists content s'' (out.map .ok) := by
  obtain ⟨answer, s₁, hempty, hcast⟩ := Fetch.of_bind_ok hcast
  have hfollows := h.isEmpty_follows
  rw [hempty] at hfollows
  cases answer with
  | false => cases hcast
  | true =>
    cases hcast
    obtain ⟨hentries, hout⟩ := (Lists.ofList hfollows.holds []).drained hdrain
    exact ⟨by simpa using hentries.symm, hout⟩

end Lists

/-! ### Soundness -/

/-- A cast that succeeds, and whose result drains, gives a sequence of the target type, unless
    one or more values are asked for and the items of the input have none at all. The instance
    test of what was drained answers accordingly. -/
theorem cast_has_type_iff {T : SequenceType} (h : t.Made s entries)
    (hcast : t.cast F T literal ctx s = (.ok u, s')) (hdrain : u.toList s' = (.ok out, s'')) :
    (T.admits F out = true ↔
        ¬ ∃ a, T = .items (.atomic a) .oneOrMore ∧ entries.flatMap (Entry.atomized F) = []) ∧
      ((ofList out).instanceOf F T s'').1 = .ok (T.admits F out) := by
  obtain ⟨content, h⟩ := h.lists
  match T with
  | .empty =>
    obtain ⟨rfl, hout⟩ := h.cast_empty hcast hdrain
    exact ⟨by simp, hout.instanceOf F .empty fun _ => by decide⟩
  | .items (.atomic a) occ =>
    cases hmany : occ.allowsMany with
    | true =>
      obtain ⟨hall, hlength, content', hout⟩ := h.cast_values hmany hcast hdrain
      refine ⟨?_, hout.instanceOf F _ fun hno => by cases hno⟩
      rw [SequenceType.admits_items_of_forall hall, Occurrence.admits_iff_of_many hmany, hlength,
        List.length_eq_zero_iff]
      simp
    | false =>
      obtain ⟨hadmits, content', hout⟩ := h.cast_single hmany hcast hdrain
      refine ⟨⟨fun _ => ?_, fun _ => hadmits⟩, hout.instanceOf F _ fun hno => by cases hno⟩
      rintro ⟨b, htype, -⟩
      cases htype
      cases hmany
  | .items .item occ | .items .node occ | .items (.nodeTest test) occ =>
    obtain ⟨hadmits, content', hout⟩ := h.cast_checked (fun a => by simp) hcast hdrain
    exact ⟨by simp [hadmits], hout.instanceOf F _ fun hno => by cases hno⟩

/-- A text of two words is cast to two integers. -/
theorem cast_has_type_iff_words :
    let F := (Forest.empty .words).add (.textOf "1 20")
    let T := SequenceType.items (.atomic (.integer .integer)) .oneOrMore
    let p := Pool.run [.items [.node 0]]
    let u := ((ofList [.node 0]).atomize F).map (castItem (.integer .integer) false .standard)
    let out : List Item :=
      [.atomic (.int ⟨1, by decide, by decide⟩), .atomic (.int ⟨20, by decide, by decide⟩)]
    (ofCursor (p.cursor 0)).cast F T false .standard p.store = (.ok u, p.store) ∧
      ∃ s, u.toList p.store = (.ok out, s) ∧ T.admits F out = true ∧
        ((ofList out).instanceOf F T s).1 = .ok (T.admits F out) := by
  intro F T p u out
  have hmade : (ofCursor (p.cursor 0)).Made p.store [.ok (.node 0)] := ⟨_, 0, rfl, rfl, rfl⟩
  have hcast : (ofCursor (p.cursor 0)).cast F T false .standard p.store = (.ok u, p.store) := rfl
  obtain ⟨content, hlists⟩ := hmade.lists
  have hu := ((Lists.ofList hlists.holds [.node 0]).atomize F).map
    (castItem (.integer .integer) false .standard)
  obtain ⟨s, hdrain, -⟩ := hu.toList
  have hvalues : ([Item.node 0].map .ok).flatMap (Entry.atomized F) =
      [.ok (.atomic (.untyped "1")), .ok (.atomic (.untyped "20"))] := by decide
  have hout : collect (([Except.ok (.atomic (.untyped "1")), .ok (.atomic (.untyped "20"))] :
      List Entry).map fun e => e.bind (castItem (.integer .integer) false .standard)) =
      .ok out := by decide
  rw [hvalues, hout] at hdrain
  obtain ⟨hiff, hanswer⟩ := cast_has_type_iff hmade hcast hdrain
  refine ⟨hcast, s, hdrain, hiff.2 ?_, hanswer⟩
  rintro ⟨a, -, hnil⟩
  rw [show [Except.ok (.node 0)] = [Item.node 0].map .ok from rfl, hvalues] at hnil
  cases hnil

/-- A text without words is cast to no integer, although one or more are asked for. -/
theorem cast_gives_no_instance :
    let F := (Forest.empty .words).add (.textOf " ")
    let T := SequenceType.items (.atomic (.integer .integer)) .oneOrMore
    let p := Pool.run [.items [.node 0]]
    let u := ((ofList [.node 0]).atomize F).map (castItem (.integer .integer) false .standard)
    (ofCursor (p.cursor 0)).Made p.store [.ok (.node 0)] ∧
      (ofCursor (p.cursor 0)).cast F T false .standard p.store = (.ok u, p.store) ∧
      ∃ s, u.toList p.store = (.ok [], s) ∧ ((ofList []).instanceOf F T s).1 = .ok false := by
  intro F T p u
  have hmade : (ofCursor (p.cursor 0)).Made p.store [.ok (.node 0)] := ⟨_, 0, rfl, rfl, rfl⟩
  obtain ⟨content, hlists⟩ := hmade.lists
  have hu := ((Lists.ofList hlists.holds [.node 0]).atomize F).map
    (castItem (.integer .integer) false .standard)
  have hvalues : ([Item.node 0].map .ok).flatMap (Entry.atomized F) = [] := by decide
  rw [hvalues] at hu
  obtain ⟨s, hdrain, hfollows⟩ := hu.toList
  have hanswer := (Lists.ofList hfollows.holds []).instanceOf F T fun _ => by decide
  exact ⟨hmade, rfl, s, hdrain, hanswer⟩

end Stream

end XPathData
