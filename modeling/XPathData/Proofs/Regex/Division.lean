import XPathData.Proofs.Regex.Replacement
import XPathData.Regex.Basic

/-! # Dividing a text

  Matches that lie one behind the other cut a text into the pieces between them. Replacing and
  tokenizing cut at the same places: what is replaced are the gaps between the pieces, and what
  was matched fits into them again.

  * `Regex.Reports` — what the engine finds in a text
  * `Regex.substitute_eq_interleave` — replacing puts texts between the pieces
  * `Regex.substitute_matched` — with the matched texts put back, the text is whole
  * `Regex.refuseEmpty_cases` — both operations refuse the same patterns
  * `Regex.Reports.tokenize_eq`, `Regex.Reports.replace_eq` — both operations for one report
-/

namespace XPathData

/-- Every legible string is read, whatever the number of groups is. -/
theorem Replacement.exists_read {w : List Char} (h : Legible w) (groups : Nat) :
    ∃ q, read groups w = .ok q := by
  obtain ⟨ts, hts⟩ := (legible_iff groups).1 h
  obtain ⟨q, hq, -⟩ := hts.scan []
  exact ⟨q, hq⟩

/-- The reference to the group 0 is read as that, whatever the number of groups is. -/
theorem Replacement.read_whole (groups : Nat) : read groups ['$', '0'] = .ok [.group 0] := by
  have hdigit : Text.isDigit '0' = true := by decide
  rw [read, scan, if_pos hdigit]
  show (scan groups [] []).map _ = _
  rw [scan_nil]
  rfl

namespace Regex

variable {r : Regex} {text w : List Char} {found : List Match} {start first : Nat}

/-! ### Pieces and gaps -/

/-- Texts by turns, first one of the first list. -/
def interleave : List (List Char) → List (List Char) → List Char
  | s :: l, t :: m => s ++ t ++ interleave l m
  | l, _ => l.flatten

/-- Nothing between the texts of a list leaves them one behind the other. -/
theorem interleave_nothing {α : Type} (l : List (List Char)) (m : List α) :
    interleave l (m.map fun _ => []) = l.flatten := by
  induction l generalizing m with
  | nil => rfl
  | cons s l ih =>
    cases m with
    | nil => rfl
    | cons _ m =>
      show s ++ [] ++ interleave l (m.map fun _ => []) = (s :: l).flatten
      rw [ih, List.append_nil, List.flatten_cons]

theorem slice_append_drop (text : List Char) (h : start ≤ first) :
    slice text start first ++ text.drop first = text.drop start := by
  have hdrop : text.drop first = (text.drop start).drop (first - start) := by
    rw [List.drop_drop, Nat.add_sub_cancel' h]
  rw [slice, hdrop, List.take_append_drop]

theorem length_pieces (text : List Char) (start : Nat) (found : List Match) :
    (pieces text start found).length = found.length + 1 := by
  induction found generalizing start with
  | nil => rfl
  | cons m found ih => rw [pieces, List.length_cons, ih, List.length_cons]

/-- An empty text has only empty pieces. -/
theorem flatten_pieces_nil (start : Nat) (found : List Match) :
    (pieces [] start found).flatten = [] := by
  induction found generalizing start with
  | nil => rw [pieces, List.drop_nil, List.flatten_cons, List.flatten_nil, List.append_nil]
  | cons m found ih => rw [pieces, List.flatten_cons, ih, slice, List.drop_nil, List.take_nil,
      List.append_nil]

/-- Replacing keeps the pieces that tokenizing gives, and puts its texts between them. -/
theorem substitute_eq_interleave (text : List Char) (f : Match → List Char) (start : Nat)
    (found : List Match) :
    substitute text f start found = interleave (pieces text start found) (found.map f) := by
  induction found generalizing start with
  | nil =>
    show text.drop start = [text.drop start].flatten
    rw [List.flatten_singleton]
  | cons m found ih => rw [substitute, ih, pieces, List.map_cons, interleave]

/-- The matches lie one behind the other, none of them turned round. -/
structure Ascending (found : List Match) : Prop where
  forward : ∀ m ∈ found, m.first ≤ m.last
  apart : found.Pairwise fun m n => m.last ≤ n.first

/-- Matches that are put in place of themselves leave the text as it is, from a place on that
    comes before all of them. -/
theorem substitute_matched (h : Ascending found) (hstart : ∀ m ∈ found, start ≤ m.first) :
    substitute text (fun m => slice text m.first m.last) start found = text.drop start := by
  induction found generalizing start with
  | nil => rfl
  | cons m found ih =>
    obtain ⟨hbehind, hapart⟩ := List.pairwise_cons.1 h.apart
    have hforward := List.forall_mem_cons.1 h.forward
    rw [substitute, ih ⟨hforward.2, hapart⟩ hbehind, List.append_assoc,
      slice_append_drop text hforward.1, slice_append_drop text (hstart m List.mem_cons_self)]

/-! ### Operations -/

/-- The engine of a regular expression finds these matches in a text and comes to an end,
    whether or not it is told of skipped characters; the matches are ascending. -/
structure Reports (r : Regex) (text : List Char) (found : List Match) : Prop where
  finds : ∀ tells, r.engine.allMatches text.toArray tells = .ok found
  ascending : Ascending found

/-- Two operations refuse the same regular expressions, with the same codes. -/
theorem refuseEmpty_cases (r : Regex) (a b : String) :
    (r.refuseEmpty a = .ok () ∧ r.refuseEmpty b = .ok ()) ∨
      ∃ e f, r.refuseEmpty a = .error e ∧ r.refuseEmpty b = .error f ∧ e.code = f.code := by
  unfold refuseEmpty
  cases hmatch : r.isMatch [] with
  | error e => exact .inr ⟨e, e, rfl, rfl, rfl⟩
  | ok isEmpty =>
    cases isEmpty with
    | true => exact .inr ⟨_, _, rfl, rfl, rfl⟩
    | false => exact .inl ⟨rfl, rfl⟩

/-- The tokens of a text between matches. -/
def tokens (text : List Char) (found : List Match) : List (List Char) :=
  if text.isEmpty then [] else pieces text 0 found

theorem flatten_tokens (text : List Char) (found : List Match) :
    (tokens text found).flatten = (pieces text 0 found).flatten := by
  unfold tokens
  split
  · next hempty =>
    rw [List.isEmpty_iff.1 hempty, flatten_pieces_nil, List.flatten_nil]
  · rfl

theorem tokens_eq_pieces (h : text ≠ []) : tokens text found = pieces text 0 found := by
  rw [tokens, if_neg (mt List.isEmpty_iff.1 h)]

/-- Each match is left out. -/
theorem substitute_nothing (text : List Char) (found : List Match) :
    substitute text (fun m => Replacement.expand (captured text m) []) 0 found =
      (tokens text found).flatten := by
  rw [substitute_eq_interleave, flatten_tokens]
  exact interleave_nothing _ found

namespace Reports

variable {s : String}

theorem tokenize_eq (h : r.Reports s.toList found) :
    r.tokenize s = (r.refuseEmpty "fn:tokenize").map fun _ =>
      (tokens s.toList found).map String.ofList := by
  unfold tokenize
  cases r.refuseEmpty "fn:tokenize" with
  | error e => rfl
  | ok _ =>
    show (if s.toList.isEmpty then _ else _) = _
    unfold tokens
    split
    · rfl
    · rw [h.finds true]
      rfl

theorem replace_eq (h : r.Reports s.toList found) {w : String} {q : Replacement}
    (hq : Replacement.read r.groups w.toList = .ok q) :
    r.replace s w = (r.refuseEmpty "fn:replace").map fun _ =>
      String.ofList (substitute s.toList (fun m => q.expand (captured s.toList m)) 0 found) := by
  unfold replace
  cases r.refuseEmpty "fn:replace" with
  | error e => rfl
  | ok _ =>
    simp only [hq, h.finds false]
    rfl

/-- Each match is replaced by itself. -/
theorem substitute_whole (h : r.Reports text found) :
    substitute text (fun m => Replacement.expand (captured text m) [.group 0]) 0 found =
      text := by
  have hcaptured (m : Match) :
      Replacement.expand (captured text m) [.group 0] = slice text m.first m.last := by
    rw [Replacement.expand_group, Replacement.expand_nil, List.append_nil]
    rfl
  simp only [hcaptured]
  rw [substitute_matched h.ascending fun m _ => Nat.zero_le _, List.drop_zero]

end Reports

end Regex

end XPathData
