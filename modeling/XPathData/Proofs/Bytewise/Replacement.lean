import XPathData.Proofs.Bytewise.Cast
import XPathData.Proofs.Library.Matching

/-! # Replacements by bytes

  A regular expression engine reports offsets. A text with replacements in it is built from the
  pieces between them, each cut out from where the last match ended to where the next one starts.

  * `Bytewise.Orderly` — what is expected of an engine
  * `Bytewise.exists_substitute` — no offset is wrong with any such engine
  * `Bytewise.substitute_matches` — with the matches that the search finds, the text is the same
  * `Bytewise.offsets_are_right` — all texts that are cut at offsets
-/

namespace XPathData.Bytewise

open Text

/-! ### Reports -/

/-- A match as an engine reports it. -/
structure Captures where
  /-- The offsets where it starts and ends. -/
  range? : Option (Nat × Nat)
  /-- What a group has captured; nothing if it took no part. -/
  group : Nat → List Char

/-- The reports on a text one after the other, which end with a fault of the search if there is
    one. -/
abbrev Reports := List (Except SearchFault Captures)

/-- The ranges of the matches. -/
def ranges (reports : Reports) : List (Nat × Nat) :=
  reports.filterMap fun
    | .ok m => m.range?
    | .error _ => none

/-- The ranges are on boundaries of the text, and each one starts where the one before it ends or
    further on. -/
structure Orderly (text : String) (reports : Reports) : Prop where
  starts : ∀ m ∈ ranges reports, String.Pos.Raw.IsValid text ⟨m.1⟩
  ends : ∀ m ∈ ranges reports, String.Pos.Raw.IsValid text ⟨m.2⟩
  apart : (ranges reports).Pairwise fun m n => m.2 ≤ n.1

/-! ### The loop -/

/-- A text from an offset on, with a replacement in place of the matches. -/
def substitute (text : String) (pieces : Replacement) :
    Nat → Reports → CheckedExcept Error (List Char)
  | last, [] => liftM (slice text last text.utf8ByteSize)
  | last, report :: reports => do
    let m ← Regex.orGiveUp report
    match m.range? with
    | none => substitute text pieces last reports
    | some (first, next) =>
      let before ← slice text last first
      return before ++ pieces.expand m.group ++ (← substitute text pieces next reports)

variable {text : String} {pieces : Replacement} {reports : Reports} {last : Nat}

theorem ranges_cons (report : Except SearchFault Captures) (reports : Reports) :
    ranges (report :: reports) =
      match report with
      | .ok ⟨some m, _⟩ => m :: ranges reports
      | _ => ranges reports := by
  match report with
  | .ok ⟨some m, _⟩ | .ok ⟨none, _⟩ | .error _ => rfl

/-- From a boundary on that is not behind the next match, no offset is wrong. The end of a match is
    such a boundary for what follows it. -/
theorem exists_substitute (h : Orderly text reports) (hlast : String.Pos.Raw.IsValid text ⟨last⟩)
    (hbefore : ∀ m ∈ ranges reports, last ≤ m.1) :
    ∃ result : Except Error (List Char), substitute text pieces last reports = liftM result := by
  induction reports generalizing last with
  | nil =>
    obtain ⟨piece, hpiece⟩ := exists_slice_to_end hlast
    rw [substitute, hpiece]
    exact ⟨.ok piece, rfl⟩
  | cons report reports ih =>
    obtain ⟨hstarts, hends, hapart⟩ := h
    rw [ranges_cons] at hstarts hends hapart hbefore
    rw [substitute]
    match report with
    | .error .exhausted => exact ⟨Regex.orGiveUp (.error .exhausted), rfl⟩
    | .ok ⟨none, _⟩ => exact ih ⟨hstarts, hends, hapart⟩ hlast hbefore
    | .ok ⟨some m, group⟩ =>
      obtain ⟨hfirst, hstarts⟩ := List.forall_mem_cons.1 hstarts
      obtain ⟨hnext, hends⟩ := List.forall_mem_cons.1 hends
      obtain ⟨hbehind, hapart⟩ := List.pairwise_cons.1 hapart
      obtain ⟨before, hslice⟩ := exists_slice hlast hfirst (hbefore m List.mem_cons_self)
      obtain ⟨rest, hrest⟩ := ih ⟨hstarts, hends, hapart⟩ hnext hbehind
      refine ⟨rest >>= fun rest => .ok (before ++ pieces.expand group ++ rest), ?_⟩
      show (liftM (slice text last m.1) >>= fun before => substitute text pieces m.2 reports >>= _)
        = _
      rw [checked_bind hslice, hrest]
      exact outcome_bind _ fun rest _ => rfl

/-- The loop starts at a boundary that is behind nothing. -/
theorem exists_substitute_zero (pieces : Replacement) (h : Orderly text reports) :
    ∃ result : Except Error (List Char), substitute text pieces 0 reports = liftM result :=
  exists_substitute h (isValid_zero text) fun m _ => Nat.zero_le m.1

/-! ### The matches of the search -/

/-- A match as a report, with offsets in place of numbers of characters. -/
def capturesOf (text : String) (m : Match) : Captures where
  range? := some (utf8Size (text.toList.take m.first), utf8Size (text.toList.take m.last))
  group := Regex.captured text.toList m

/-- What the engine of a regular expression reports on a text. -/
def reportsOf (r : Regex) (text : String) : Reports :=
  match r.engine.allMatches text.toList.toArray false with
  | .ok found => found.map fun m => .ok (capturesOf text m)
  | .error e => [.error e]

theorem slice_eq (text : String) {start first : Nat} (h : start ≤ first) :
    slice text (utf8Size (text.toList.take start)) (utf8Size (text.toList.take first)) =
      .ok (Regex.slice text.toList start first) := by
  have hcut : text.toList.take first =
      text.toList.take start ++ Regex.slice text.toList start first := by
    rw [Regex.slice, ← List.take_add, Nat.add_sub_cancel' h]
  refine slice_eq_ok_iff.2 ⟨_, text.toList.drop first, ?_, rfl, ?_⟩
  · rw [← hcut, List.take_append_drop]
  · rw [hcut, utf8Size_append]

/-- With the matches of the search, the text is the same. -/
theorem substitute_matches {found : List Match} {start : Nat} (h : Regex.Ascending found)
    (hstart : ∀ m ∈ found, start ≤ m.first) :
    substitute text pieces (utf8Size (text.toList.take start))
        (found.map fun m => .ok (capturesOf text m)) =
      pure (Regex.substitute text.toList (fun m => pieces.expand (Regex.captured text.toList m))
        start found) := by
  induction found generalizing start with
  | nil =>
    have hcut := (List.take_append_drop start text.toList).symm
    rw [List.map_nil, substitute, slice_to_end hcut]
    rfl
  | cons m found ih =>
    obtain ⟨hbehind, hapart⟩ := List.pairwise_cons.1 h.apart
    obtain ⟨hle, hforward⟩ := List.forall_mem_cons.1 h.forward
    rw [List.map_cons, substitute]
    show (liftM (slice text _ (utf8Size (text.toList.take m.first))) >>= fun before =>
      substitute text pieces (utf8Size (text.toList.take m.last)) _ >>= _) = _
    rw [checked_bind (slice_eq text (hstart m List.mem_cons_self)), ih ⟨hforward, hapart⟩ hbehind]
    rfl

/-- The same for all that the engine reports; a fault of the search stands at the end. -/
theorem substitute_reportsOf {r : Regex}
    (h : ∀ found, r.engine.allMatches text.toList.toArray false = .ok found →
      Regex.Ascending found) :
    substitute text pieces 0 (reportsOf r text) =
      liftM ((Regex.orGiveUp (r.engine.allMatches text.toList.toArray false)).map fun found =>
        Regex.substitute text.toList (fun m => pieces.expand (Regex.captured text.toList m)) 0
          found) := by
  unfold reportsOf
  cases hfound : r.engine.allMatches text.toList.toArray false with
  | error e =>
    cases e
    rfl
  | ok found => exact substitute_matches (h found hfound) fun m _ => Nat.zero_le m.first

/-! ### Calls -/

/-- Puts a replacement in place of the matches that are reported. -/
def replace (r : Regex) (reports : Reports) (text replacement : String) :
    CheckedExcept Error String := do
  r.refuseEmpty "fn:replace"
  match Replacement.read r.groups replacement.toList with
  | .error f => throw f.error
  | .ok pieces => return String.ofList (← substitute text pieces 0 reports)

/-- A call of the function, with an engine that reports the matches of a regular expression in a
    text. -/
def callReplace (engine : Regex → String → Reports) (input pattern replacement : List Item)
    (flags : Option (List Item)) (ctx : CallContext) : CheckedExcept Failure (List Item) := do
  let text ← Argument.string input ctx
  let p ← Argument.string pattern ctx
  let w ← Argument.string replacement ctx
  let f ← Argument.stringOr "" flags ctx
  let r ← (liftM (Regex.compile p f) : Outcome Regex)
  let result ← (replace r (engine r text) text w).adapt Failure.error
  return [Library.textItem result]

/-- A step without questions goes wrong nowhere, if what follows does not. -/
theorem exists_bind {ε α β : Type} (r : Except ε α) {f : α → CheckedExcept ε β}
    (h : ∀ a, ∃ o : Except ε β, f a = liftM o) :
    ∃ o : Except ε β, ((liftM r : CheckedExcept ε α) >>= f) = liftM o := by
  cases r with
  | error e => exact ⟨.error e, rfl⟩
  | ok a => exact h a

theorem exists_replace (r : Regex) (h : Orderly text reports) (w : String) :
    ∃ result : Except Error String, replace r reports text w = liftM result := by
  refine exists_bind _ fun _ => ?_
  cases Replacement.read r.groups w.toList with
  | error f => exact ⟨.error f.error, rfl⟩
  | ok pieces =>
    obtain ⟨result, hresult⟩ := exists_substitute_zero pieces h
    dsimp only
    rw [hresult]
    exact exists_bind _ fun t => ⟨.ok (String.ofList t), rfl⟩

theorem replace_eq {r : Regex} (w : String)
    (h : ∀ found, r.engine.allMatches text.toList.toArray false = .ok found →
      Regex.Ascending found) :
    replace r (reportsOf r text) text w = liftM (r.replace text w) := by
  unfold replace Regex.replace
  cases r.refuseEmpty "fn:replace" with
  | error e => rfl
  | ok _ =>
    cases Replacement.read r.groups w.toList with
    | error f => rfl
    | ok pieces =>
      show (substitute text pieces 0 (reportsOf r text) >>= _) =
        liftM (Regex.orGiveUp (r.engine.allMatches text.toList.toArray false) >>= _)
      rw [substitute_reportsOf h]
      cases Regex.orGiveUp (r.engine.allMatches text.toList.toArray false) <;> rfl

section Call

variable {input pattern replacement : List Item} {flags : Option (List Item)} {ctx : CallContext}

theorem exists_callReplace {engine : Regex → String → Reports}
    (h : ∀ r text, Orderly text (engine r text)) :
    ∃ result : Outcome (List Item),
      callReplace engine input pattern replacement flags ctx = liftM result := by
  refine exists_bind _ fun text => exists_bind _ fun p => exists_bind _ fun w => ?_
  refine exists_bind _ fun f => exists_bind _ fun r => ?_
  obtain ⟨result, hresult⟩ := exists_replace r (h r text) w
  rw [hresult]
  cases result with
  | error e => exact ⟨.error (.error e), rfl⟩
  | ok t => exact ⟨.ok [Library.textItem t], rfl⟩

theorem callReplace_eq
    (h : ∀ text r found, Argument.string input ctx = .ok text →
      Library.regexOf pattern flags ctx = .ok r →
      r.engine.allMatches text.toList.toArray false = .ok found → Regex.Ascending found) :
    callReplace reportsOf input pattern replacement flags ctx =
      liftM (Library.replace input pattern replacement flags ctx) := by
  refine outcome_bind (Argument.string input ctx) fun text htext => ?_
  refine outcome_bind (Argument.string pattern ctx) fun p hp => ?_
  refine outcome_bind (Argument.string replacement ctx) fun w _ => ?_
  refine outcome_bind (Argument.stringOr "" flags ctx) fun f hf => ?_
  refine outcome_bind (liftM (Regex.compile p f) : Outcome Regex) fun r hr => ?_
  have hregex : Library.regexOf pattern flags ctx = .ok r :=
    (Library.call_bind_ok hp _).trans ((Library.call_bind_ok hf _).trans hr)
  rw [replace_eq w fun found => h text r found htext hregex]
  show _ = liftM ((do return [Library.textItem (← liftM (r.replace text w))] :
    Call (List Item)) ctx)
  cases r.replace text w <;> rfl

end Call

/-! ### All offsets -/

/-- Whatever a text is, no offset is wrong at which it is cut: at a timezone, at the components of
    a duration, at the mark of a number, and in all casts, which give the same as without offsets.
    With an engine that reports orderly ranges, the same holds of the loop of a replacement and of
    all calls, and with the search for an engine, as far as its matches are ascending, the calls
    give the same too. -/
theorem offsets_are_right :
    (∀ s, (takeZone s).run = .ok (Calendar.takeZone s.toList)) ∧
    (∀ order s, (components order s).run =
      .ok (DurationLiteral.components (order.contains 'S') order [] s.toList)) ∧
    (∀ f s, readBinary? f s = .ok (Atomic.readBinary? f s.toList)) ∧
    (∀ text pieces reports, Orderly text reports →
      ∃ result, (substitute text pieces 0 reports).run = .ok result) ∧
    (∀ a target ctx, (cast a target ctx).run = .ok (a.cast target ctx)) ∧
    (∀ engine : Regex → String → Reports, (∀ r text, Orderly text (engine r text)) →
      ∀ input pattern replacement flags ctx,
        ∃ result, (callReplace engine input pattern replacement flags ctx).run = .ok result) ∧
    ∀ input pattern replacement flags ctx,
      (∀ text r found, Argument.string input ctx = .ok text →
        Library.regexOf pattern flags ctx = .ok r →
        r.engine.allMatches text.toList.toArray false = .ok found → Regex.Ascending found) →
      (callReplace reportsOf input pattern replacement flags ctx).run =
        .ok (Library.replace input pattern replacement flags ctx) := by
  refine ⟨fun s => ?_, fun order s => ?_, readBinary?_eq, ?_, fun a target ctx => ?_, ?_, ?_⟩
  · rw [takeZone_eq]
    rfl
  · rw [components_eq]
    rfl
  · intro text pieces reports h
    obtain ⟨result, hresult⟩ := exists_substitute_zero pieces h
    exact ⟨result, congrArg ExceptT.run hresult⟩
  · rw [cast_eq]
    rfl
  · intro engine h input pattern replacement flags ctx
    obtain ⟨result, hresult⟩ := exists_callReplace h
    exact ⟨result, congrArg ExceptT.run hresult⟩
  · intro input pattern replacement flags ctx h
    rw [callReplace_eq h]
    rfl

/-- Characters of two bytes before a timezone, and in a text where they are replaced: one match
    ends where the next one starts. -/
theorem offsets_are_right_wide :
    let call : CallContext := ⟨.empty .words, .standard⟩
    let text := "größe"
    let input := [Library.textItem text]
    let pattern := [Library.textItem "ö|ß"]
    let replacement := [Library.textItem "$0-"]
    let engine : Regex → String → Reports := fun _ t =>
      if t = text then [.ok ⟨some (2, 4), fun _ => ['ö']⟩, .ok ⟨some (4, 6), fun _ => ['ß']⟩]
      else []
    (takeZone "ß-05:30").run = .ok (.ok (['ß'], some ⟨-19800, by decide, by decide⟩)) ∧
    (∀ r t, Orderly t (engine r t)) ∧
    (∀ r, ∃ result, (substitute text [.group 0] 0 (engine r text)).run = .ok result) ∧
    (∃ result, (callReplace engine input pattern replacement none call).run = .ok result) ∧
    (∀ t r found, Argument.string input call = .ok t → Library.regexOf pattern none call = .ok r →
      r.engine.allMatches t.toList.toArray false = .ok found → Regex.Ascending found) ∧
    (callReplace reportsOf input pattern replacement none call).run =
      .ok (.ok [Library.textItem "grö-ß-e"]) := by
  intro call text input pattern replacement engine
  obtain ⟨hzone, -, -, hloop, -, hcalls, hsearch⟩ := offsets_are_right
  have horderly : ∀ r t, Orderly t (engine r t) := by
    intro r t
    by_cases ht : t = text
    · have hengine : engine r t =
          [.ok ⟨some (2, 4), fun _ => ['ö']⟩, .ok ⟨some (4, 6), fun _ => ['ß']⟩] := if_pos ht
      rw [hengine, ht]
      exact ⟨by decide, by decide, by decide⟩
    · have hengine : engine r t = [] := if_neg ht
      rw [hengine]
      exact ⟨by simp [ranges], by simp [ranges], .nil⟩
  have hascending : ∀ t r found, Argument.string input call = .ok t →
      Library.regexOf pattern none call = .ok r →
      r.engine.allMatches t.toList.toArray false = .ok found → Regex.Ascending found := by
    intro t r found ht hr hfound
    cases ht
    have hfinds : ((Regex.compile "ö|ß" "").map fun r =>
        r.engine.allMatches text.toList.toArray false) = .ok (.ok [⟨2, 3, []⟩, ⟨3, 4, []⟩]) := by
      cbv
    have hcompile : (liftM (Regex.compile "ö|ß" "") : Outcome Regex) = .ok r := hr
    cases hc : Regex.compile "ö|ß" "" with
    | error e =>
      rw [hc] at hcompile
      cases hcompile
    | ok r' =>
      rw [hc] at hcompile hfinds
      cases hcompile
      obtain rfl := Except.ok.inj (hfound.symm.trans (Except.ok.inj hfinds))
      exact ⟨by decide, by decide⟩
  have hread : Calendar.takeZone "ß-05:30".toList =
      .ok (['ß'], some ⟨-19800, by decide, by decide⟩) := by
    decide +kernel
  have hreplaced : Library.replace input pattern replacement none call =
      .ok [Library.textItem "grö-ß-e"] := by
    cbv
  exact ⟨(hzone _).trans (congrArg _ hread), horderly, fun r => hloop _ _ _ (horderly r text),
    hcalls engine horderly _ _ _ _ _, hascending,
    (hsearch _ _ _ _ _ hascending).trans (congrArg _ hreplaced)⟩

end XPathData.Bytewise
