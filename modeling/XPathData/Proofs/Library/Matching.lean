import Mathlib
import XPathData.Library.Matching
import XPathData.Proofs.Regex.Division

/-! # Replacing and tokenizing

  Both functions first make a text and a regular expression of their arguments. From there on
  they fail for one reason only, which is no matter of the replacement as long as it can be
  read, and the same matches tell what they give.

  * `Library.regexOf` — the regular expression that both functions make
  * `Library.FailAlike` — two calls fail together
  * `Library.tokenize_of_ok`, `Library.replace_of_ok` — the functions once they have both
  * `Library.replace_agrees_with_tokenize` — what the tokens tell of replacements
-/

namespace XPathData

/-- The code of an error; leaving the calendar has none. -/
def Failure.code? : Failure → Option ExpandedName
  | error e => some e.code
  | outOfCalendar => none

namespace Library

open Argument

variable {α β : Type} {ctx : CallContext} {input pattern : List Item}
  {flags : Option (List Item)} {s : String} {r : Regex} {found : List Match}

/-! ### What a call fails with -/

/-- Two outcomes are both values, or both failures with the same code. -/
inductive FailAlike : Outcome α → Outcome β → Prop
  | ok (a : α) (b : β) : FailAlike (.ok a) (.ok b)
  | error {e f : Failure} (code : e.code? = f.code?) : FailAlike (.error e) (.error f)

/-! ### The functions in steps -/

theorem call_bind_ok {x : Call α} {a : α} (h : x ctx = .ok a) (k : α → Call β) :
    (x >>= k) ctx = k a ctx := by
  show (x ctx).bind _ = _
  rw [h]
  rfl

theorem call_bind_error {x : Call α} {e : Failure} (h : x ctx = .error e) (k : α → Call β) :
    (x >>= k) ctx = .error e := by
  show (x ctx).bind _ = _
  rw [h]
  rfl

/-- An outcome within the language, as the last step of a call. -/
theorem liftM_map (x : Except Error α) (f : α → β) (ctx : CallContext) :
    (do return f (← liftM x) : Call β) ctx = (liftM x : Outcome α).map f := by
  cases x <;> rfl

/-- The regular expression of a pattern and its flags. -/
def regexOf (pattern : List Item) (flags : Option (List Item)) : Call Regex := do
  let p ← string pattern
  liftM (Regex.compile p (← stringOr "" flags))

theorem string_textItem (w : String) : string [textItem w] = pure w := by
  funext ctx
  rfl

theorem tokenize_eq (input pattern : List Item) (flags : Option (List Item)) :
    tokenize input pattern flags = do
      let s ← string input
      let r ← regexOf pattern flags
      return (← liftM (r.tokenize s)).map textItem := by
  simp only [tokenize, regexOf, bind_assoc]

theorem replace_eq (input pattern : List Item) (flags : Option (List Item)) (w : String) :
    replace input pattern [textItem w] flags = do
      let s ← string input
      let r ← regexOf pattern flags
      return [textItem (← liftM (r.replace s w))] := by
  simp only [replace, regexOf, string_textItem, bind_assoc, pure_bind]

/-- Where there is no text or no regular expression, both functions fail with that. -/
theorem exists_ok_or_fails (ctx : CallContext) (input pattern : List Item)
    (flags : Option (List Item)) :
    (∃ s r, string input ctx = .ok s ∧ regexOf pattern flags ctx = .ok r) ∨
      ∃ e, tokenize input pattern flags ctx = .error e ∧
        ∀ w, replace input pattern [textItem w] flags ctx = .error e := by
  simp only [tokenize_eq, replace_eq]
  cases hs : string input ctx with
  | error e => exact .inr ⟨e, call_bind_error hs _, fun w => call_bind_error hs _⟩
  | ok s =>
    simp only [call_bind_ok hs]
    cases hr : regexOf pattern flags ctx with
    | error e => exact .inr ⟨e, call_bind_error hr _, fun w => call_bind_error hr _⟩
    | ok r => exact .inl ⟨s, r, rfl, rfl⟩

theorem tokenize_of_ok (hs : string input ctx = .ok s) (hr : regexOf pattern flags ctx = .ok r) :
    tokenize input pattern flags ctx =
      (liftM (r.tokenize s) : Outcome (List String)).map (List.map textItem) := by
  rw [tokenize_eq, call_bind_ok hs, call_bind_ok hr]
  exact liftM_map (r.tokenize s) (List.map textItem) ctx

theorem replace_of_ok (hs : string input ctx = .ok s) (hr : regexOf pattern flags ctx = .ok r)
    (w : String) :
    replace input pattern [textItem w] flags ctx =
      (liftM (r.replace s w) : Outcome String).map fun t => [textItem t] := by
  rw [replace_eq, call_bind_ok hs, call_bind_ok hr]
  exact liftM_map (r.replace s w) (fun t => [textItem t]) ctx

/-! ### Agreement -/

section Report

variable (h : r.Reports s.toList found) (hs : string input ctx = .ok s)
  (hr : regexOf pattern flags ctx = .ok r)
include h hs hr

/-- With one report for both functions, they fail alike for every replacement that can be read. -/
theorem fail_alike {w : String} (hw : Replacement.Legible w.toList) :
    FailAlike (tokenize input pattern flags ctx)
      (replace input pattern [textItem w] flags ctx) := by
  obtain ⟨q, hq⟩ := Replacement.exists_read hw r.groups
  rw [tokenize_of_ok hs hr, replace_of_ok hs hr, h.tokenize_eq, h.replace_eq hq]
  rcases r.refuseEmpty_cases "fn:tokenize" "fn:replace" with ⟨ht, hp⟩ | ⟨e, f, ht, hp, hcode⟩
  · rw [ht, hp]
    exact .ok _ _
  · rw [ht, hp]
    exact .error (congrArg some hcode)

/-- Where there are tokens, the pattern is not refused, and they are those between the matches. -/
theorem tokens_of_ok {l : List Item} (hl : tokenize input pattern flags ctx = .ok l) :
    r.refuseEmpty "fn:replace" = .ok () ∧
      l = (Regex.tokens s.toList found).map fun t => textItem (.ofList t) := by
  rw [tokenize_of_ok hs hr, h.tokenize_eq] at hl
  rcases r.refuseEmpty_cases "fn:tokenize" "fn:replace" with ⟨ht, hp⟩ | ⟨e, f, ht, hp, hcode⟩
  · rw [ht] at hl
    rw [← Except.ok.inj hl]
    exact ⟨hp, List.map_map⟩
  · rw [ht] at hl
    cases hl

/-- Where the pattern is not refused, a replacement that is read takes the place of the matches. -/
theorem replaced_of_ok (hp : r.refuseEmpty "fn:replace" = .ok ()) {w : String} {q : Replacement}
    (hq : Replacement.read r.groups w.toList = .ok q) :
    replace input pattern [textItem w] flags ctx = .ok [textItem (.ofList (Regex.substitute
      s.toList (fun m => q.expand (Regex.captured s.toList m)) 0 found))] := by
  rw [replace_of_ok hs hr, h.replace_eq hq, hp]
  rfl

end Report

/-- Let the engine find the same ascending matches in a text for both functions, and come to an
    end. Then tokenizing fails where replacing does, with the same code, whatever the replacement
    is, as long as it can be read. Where it gives tokens, the replacement that stands for the
    match leaves the text as it is, and the empty one leaves the tokens one behind the other.
    Of a text that is not empty there is one token more than there are matches, and tokens and
    matched texts by turns are the text. -/
theorem replace_agrees_with_tokenize (ctx : CallContext) (input pattern : List Item)
    (flags : Option (List Item)) (found : List Match)
    (h : ∀ s r, string input ctx = .ok s → regexOf pattern flags ctx = .ok r →
      r.Reports s.toList found) :
    (∀ w : String, Replacement.Legible w.toList →
      FailAlike (tokenize input pattern flags ctx)
        (replace input pattern [textItem w] flags ctx)) ∧
    ∀ l, tokenize input pattern flags ctx = .ok l →
      ∃ (s : String) (tokens : List (List Char)), string input ctx = .ok s ∧
        l = tokens.map (fun t => textItem (.ofList t)) ∧
        replace input pattern [textItem "$0"] flags ctx = .ok [textItem s] ∧
        replace input pattern [textItem ""] flags ctx = .ok [textItem (.ofList tokens.flatten)] ∧
        (s ≠ "" → tokens.length = found.length + 1 ∧
          Regex.interleave tokens
            (found.map fun m => Regex.slice s.toList m.first m.last) = s.toList) := by
  rcases exists_ok_or_fails ctx input pattern flags with ⟨s, r, hs, hr⟩ | ⟨e, ht, hp⟩
  · have hreports := h s r hs hr
    refine ⟨fun w hw => fail_alike hreports hs hr hw, ?_⟩
    intro l hl
    obtain ⟨hp, rfl⟩ := tokens_of_ok hreports hs hr hl
    refine ⟨s, Regex.tokens s.toList found, hs, rfl, ?_, ?_, ?_⟩
    · have hread : Replacement.read r.groups "$0".toList = .ok [.group 0] :=
        Replacement.read_whole r.groups
      rw [replaced_of_ok hreports hs hr hp hread, hreports.substitute_whole, String.ofList_toList]
    · have hread : Replacement.read r.groups "".toList = .ok [] := Replacement.scan_nil
      rw [replaced_of_ok hreports hs hr hp hread, Regex.substitute_nothing]
    · intro hne
      have hchars : s.toList ≠ [] := fun hnil => hne (String.toList_eq_nil_iff.1 hnil)
      rw [Regex.tokens_eq_pieces hchars, Regex.length_pieces, ← Regex.substitute_eq_interleave,
        Regex.substitute_matched hreports.ascending fun m _ => Nat.zero_le m.first]
      exact ⟨rfl, List.drop_zero⟩
  · constructor
    · intro w _
      rw [ht, hp w]
      exact .error rfl
    · intro l hl
      rw [ht] at hl
      cases hl

/-- Matches at both ends of a text and an empty one between them; the empty match where the first
    one ends is not taken. -/
theorem replace_agrees_with_tokenize_at_ends :
    let call : CallContext := ⟨.empty .words, .standard⟩
    let input := [textItem "abba"]
    let pattern := [textItem "a|(?=b)"]
    let found : List Match := [⟨0, 1, []⟩, ⟨2, 2, []⟩, ⟨3, 4, []⟩]
    (∀ s r, string input call = .ok s → regexOf pattern none call = .ok r →
      r.Reports s.toList found) ∧
    tokenize input pattern none call = .ok (["", "b", "b", ""].map textItem) ∧
    FailAlike (tokenize input pattern none call) (replace input pattern [textItem "x"] none call) ∧
    replace input pattern [textItem "$0"] none call = .ok input ∧
    replace input pattern [textItem ""] none call = .ok [textItem "bb"] := by
  intro call input pattern found
  have h : ∀ s r, string input call = .ok s → regexOf pattern none call = .ok r →
      r.Reports s.toList found := by
    intro s r hs hr
    cases hs
    have hfinds : ((Regex.compile "a|(?=b)" "").map fun r =>
        (r.engine.allMatches "abba".toList.toArray true,
          r.engine.allMatches "abba".toList.toArray false)) = .ok (.ok found, .ok found) := by
      cbv
    have hcompile : (liftM (Regex.compile "a|(?=b)" "") : Outcome Regex) = .ok r := hr
    cases hc : Regex.compile "a|(?=b)" "" with
    | error e =>
      rw [hc] at hcompile
      cases hcompile
    | ok r' =>
      rw [hc] at hcompile hfinds
      cases hcompile
      obtain ⟨htells, hsilent⟩ := Prod.mk.inj (Except.ok.inj hfinds)
      exact ⟨Bool.forall_bool.2 ⟨hsilent, htells⟩, by decide, by decide⟩
  have hl : tokenize input pattern none call = .ok (["", "b", "b", ""].map textItem) := by
    cbv
  have hw : Replacement.Legible "x".toList := .plain (by decide) (by decide) .nil
  obtain ⟨hfail, htokens⟩ := replace_agrees_with_tokenize call input pattern none found h
  obtain ⟨s, tokens, hs, htexts, hwhole, hnothing, -⟩ := htokens _ hl
  cases hs
  have hinjective : Function.Injective fun t : List Char => textItem (.ofList t) := by
    intro t u htu
    exact String.ofList_injective (by simpa [textItem] using htu)
  obtain rfl : [[], ['b'], ['b'], []] = tokens := List.map_injective_iff.2 hinjective htexts
  exact ⟨h, hl, hfail "x" hw, hwhole, hnothing⟩

end Library

end XPathData
