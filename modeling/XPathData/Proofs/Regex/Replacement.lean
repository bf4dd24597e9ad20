import Mathlib.Data.List.Chain
import Mathlib.Data.List.Infix
import XPathData.Proofs.Text.Digits
import XPathData.Regex.Replacement

/-! # Reading replacement strings

  A replacement string is read from left to right, a character or a reference at a time. The pieces
  are that reading with as few literals as there can be, and which strings can be read does not
  depend on the number of groups.

  * `Replacement.Legible` — the strings that can be read
  * `Replacement.Reads` — the reading, character by character
  * `Replacement.read_eq_ok_iff` — the pieces are the normal form of the reading
  * `Replacement.read_exactly` — which strings are read, and as what
-/

namespace XPathData

/-- The piece is a literal. -/
def ReplacementPiece.isLiteral : ReplacementPiece → Bool
  | literal _ => true
  | group _ => false

namespace Replacement

open Text

variable {groups : Nat} {c d : Char} {s ds rest taken pending : List Char} {r ts : Replacement}

/-! ### The grammar -/

/-- Each backslash stands before a backslash or a dollar sign, and each other dollar sign before a
    digit. -/
inductive Legible : List Char → Prop
  | nil : Legible []
  | plain {c : Char} {s : List Char} : c ≠ '\\' → c ≠ '$' → Legible s → Legible (c :: s)
  | escaped {c : Char} {s : List Char} : c = '\\' ∨ c = '$' → Legible s → Legible ('\\' :: c :: s)
  | reference {c : Char} {s : List Char} : isDigit c = true → Legible s → Legible ('$' :: c :: s)

/-- Of what follows the digits `taken`, `ds` is the longest run of digits for which all numbers on
    the way are at most `groups`, and `rest` is left. -/
structure Continues (groups : Nat) (taken ds rest : List Char) : Prop where
  digits : ∀ c ∈ ds, isDigit c = true
  bounded : ∀ p, p <+: ds → p ≠ [] → readDigits (taken ++ p) ≤ groups
  longest : ∀ c s, rest = c :: s → isDigit c = true → groups < readDigits (taken ++ ds ++ [c])

/-- The reading of a string, with a literal for each character of its own. -/
inductive Reads (groups : Nat) : List Char → Replacement → Prop
  | nil : Reads groups [] []
  | plain {c : Char} {s : List Char} {ts : Replacement} : c ≠ '\\' → c ≠ '$' →
      Reads groups s ts → Reads groups (c :: s) (.literal [c] :: ts)
  | escaped {c : Char} {s : List Char} {ts : Replacement} : c = '\\' ∨ c = '$' →
      Reads groups s ts → Reads groups ('\\' :: c :: s) (.literal [c] :: ts)
  | reference {d : Char} {ds rest : List Char} {ts : Replacement} : isDigit d = true →
      Continues groups [d] ds rest → Reads groups rest ts →
      Reads groups ('$' :: d :: (ds ++ rest)) (.group (readDigits (d :: ds)) :: ts)

/-! ### Numbers of groups -/

theorem continues_nil : Continues groups taken [] rest ↔
    ∀ c s, rest = c :: s → isDigit c = true → groups < readDigits (taken ++ [c]) := by
  constructor
  · intro h c s hrest hc
    simpa using h.longest c s hrest hc
  · intro h
    refine ⟨by simp, fun p hp hne => ?_, by simpa using h⟩
    exact absurd (List.prefix_nil.1 hp) hne

theorem continues_cons : Continues groups taken (c :: ds) rest ↔
    isDigit c = true ∧ readDigits (taken ++ [c]) ≤ groups ∧
      Continues groups (taken ++ [c]) ds rest := by
  constructor
  · intro h
    refine ⟨h.digits c List.mem_cons_self, h.bounded [c] (by simp) (by simp), ?_, ?_, ?_⟩
    · exact fun e he => h.digits e (List.mem_cons_of_mem c he)
    · intro p hp hne
      simpa using h.bounded (c :: p) (List.prefix_cons_iff.2 (.inr ⟨p, rfl, hp⟩)) (by simp)
    · intro e s hrest he
      simpa using h.longest e s hrest he
  · rintro ⟨hc, hle, h⟩
    refine ⟨?_, ?_, ?_⟩
    · intro e he
      rcases List.mem_cons.1 he with rfl | he
      · exact hc
      · exact h.digits e he
    · intro p hp hne
      rcases List.prefix_cons_iff.1 hp with rfl | ⟨q, rfl, hq⟩
      · exact absurd rfl hne
      · by_cases hempty : q = []
        · subst hempty
          exact hle
        · simpa using h.bounded q hq hempty
    · intro e s hrest he
      simpa using h.longest e s hrest he

/-- The number of a group takes the longest run. -/
theorem groupNumber_of_continues (h : Continues groups taken ds rest) :
    groupNumber groups (readDigits taken) (ds ++ rest) = (readDigits (taken ++ ds), rest) := by
  induction ds generalizing taken with
  | nil =>
    rw [List.append_nil, List.nil_append]
    cases rest with
    | nil => rfl
    | cons c s =>
      rw [groupNumber, ← readDigits_concat, if_neg]
      rintro ⟨hc, hle⟩
      exact absurd (continues_nil.1 h c s rfl hc) (Nat.not_lt.2 hle)
  | cons c ds ih =>
    obtain ⟨hc, hle, h⟩ := continues_cons.1 h
    rw [List.cons_append, groupNumber, ← readDigits_concat, if_pos ⟨hc, hle⟩, ih h,
      List.append_assoc, List.singleton_append]

/-- The number of a reference is that of its first digit and the longest run behind it. -/
theorem groupNumber_reference (h : Continues groups [d] ds rest) :
    groupNumber groups (digitValue d) (ds ++ rest) = (readDigits (d :: ds), rest) := by
  rw [show digitValue d = readDigits [d] by simp [readDigits]]
  exact groupNumber_of_continues h

/-- There is a longest run in any text. -/
theorem exists_continues (groups : Nat) (taken s : List Char) :
    ∃ ds rest, s = ds ++ rest ∧ Continues groups taken ds rest := by
  induction s generalizing taken with
  | nil => exact ⟨[], [], rfl, continues_nil.2 nofun⟩
  | cons c s ih =>
    by_cases hc : isDigit c = true ∧ readDigits (taken ++ [c]) ≤ groups
    · obtain ⟨ds, rest, rfl, h⟩ := ih (taken ++ [c])
      exact ⟨c :: ds, rest, rfl, continues_cons.2 ⟨hc.1, hc.2, h⟩⟩
    · refine ⟨[], c :: s, rfl, continues_nil.2 ?_⟩
      intro e t heq he
      cases heq
      exact Nat.lt_of_not_le fun hle => hc ⟨he, hle⟩

/-! ### One step of the scanner -/

theorem scan_nil : scan groups pending [] = .ok (close pending) := by rw [scan]

theorem scan_plain (hslash : c ≠ '\\') (hdollar : c ≠ '$') :
    scan groups pending (c :: s) = scan groups (pending ++ [c]) s := by
  rw [scan]
  · exact fun _ _ h => absurd h hslash
  · exact fun h => absurd h hslash
  · exact fun _ _ h => absurd h hdollar
  · exact fun h => absurd h hdollar

theorem scan_escaped (h : c = '\\' ∨ c = '$') :
    scan groups pending ('\\' :: c :: s) = scan groups (pending ++ [c]) s := by
  rw [scan, if_pos h]

theorem scan_reference (hd : isDigit d = true) (h : Continues groups [d] ds rest) :
    scan groups pending ('$' :: d :: (ds ++ rest)) =
      (scan groups [] rest).map fun r => close pending ++ .group (readDigits (d :: ds)) :: r := by
  rw [scan, if_pos hd, groupNumber_reference h]

/-! ### Normal forms -/

/-- No literal is empty, and no two literals stand side by side. -/
structure IsNormal (r : Replacement) : Prop where
  solid : ∀ s, .literal s ∈ r → s ≠ []
  apart : r.IsChain fun p q => ¬ (p.isLiteral = true ∧ q.isLiteral = true)

/-- A text as a literal for each character. -/
def letters (s : List Char) : Replacement := s.map fun c => .literal [c]

/-- The pieces with a literal for each character. -/
def spread (r : Replacement) : Replacement :=
  r.flatMap fun piece =>
    match piece with
    | .literal s => letters s
    | .group i => [.group i]

/-- Puts a piece in front of others, a literal together with a literal that comes first. -/
def attach : ReplacementPiece → Replacement → Replacement
  | .literal s, .literal t :: r => .literal (s ++ t) :: r
  | piece, r => piece :: r

/-- Puts literals that stand side by side together. -/
def gather (r : Replacement) : Replacement := r.foldr attach []

@[simp] theorem spread_nil : spread [] = [] := rfl

@[simp] theorem spread_literal (s : List Char) (r : Replacement) :
    spread (.literal s :: r) = letters s ++ spread r := rfl

@[simp] theorem spread_group (i : Nat) (r : Replacement) :
    spread (.group i :: r) = .group i :: spread r := rfl

@[simp] theorem spread_append (r q : Replacement) : spread (r ++ q) = spread r ++ spread q :=
  List.flatMap_append

@[simp] theorem spread_close (pending : List Char) : spread (close pending) = letters pending := by
  cases pending <;> simp [letters]

@[simp] theorem letters_append (s t : List Char) : letters (s ++ t) = letters s ++ letters t :=
  List.map_append

/-- Spreading pieces does not change the text that they stand for. -/
theorem expand_spread (captured : Nat → List Char) (r : Replacement) :
    expand captured (spread r) = expand captured r := by
  have hletters (s : List Char) : expand captured (letters s) = s := by
    induction s with
    | nil => rfl
    | cons c s ih =>
      rw [letters, List.map_cons, expand_literal, ← letters, ih]
      rfl
  induction r with
  | nil => rfl
  | cons piece r ih =>
    cases piece with
    | literal s => rw [spread_literal, expand_append, hletters, ih, expand_literal]
    | group i => rw [spread_group, expand_group, ih, expand_group]

theorem isNormal_nil : IsNormal [] := ⟨by simp, .nil⟩

theorem isNormal_group {i : Nat} (h : IsNormal r) : IsNormal (.group i :: r) where
  solid s hs := h.solid s (by simpa using hs)
  apart := by
    refine List.isChain_cons.2 ⟨fun q _ => ?_, h.apart⟩
    rintro ⟨h, -⟩
    cases h

theorem isNormal_close_group {i : Nat} (pending : List Char) (h : IsNormal r) :
    IsNormal (close pending ++ .group i :: r) := by
  cases pending with
  | nil => exact isNormal_group h
  | cons c s =>
    have hgroup := isNormal_group (i := i) h
    refine ⟨fun t ht => ?_, ?_⟩
    · rcases List.mem_cons.1 ht with heq | ht
      · cases heq
        exact List.cons_ne_nil c s
      · exact hgroup.solid t ht
    · refine List.isChain_cons.2 ⟨fun q hq => ?_, hgroup.apart⟩
      cases Option.some.inj hq
      rintro ⟨-, h⟩
      cases h

theorem isNormal_close (pending : List Char) : IsNormal (close pending) := by
  cases pending with
  | nil => exact isNormal_nil
  | cons c s => exact ⟨by simp, .singleton _⟩

theorem IsNormal.tail {piece : ReplacementPiece} (h : IsNormal (piece :: r)) : IsNormal r :=
  ⟨fun s hs => h.solid s (List.mem_cons_of_mem _ hs), h.apart.tail⟩

theorem attach_apart {piece : ReplacementPiece}
    (h : ∀ q ∈ r.head?, ¬ (piece.isLiteral = true ∧ q.isLiteral = true)) :
    attach piece r = piece :: r := by
  cases piece with
  | group i => rfl
  | literal s =>
    match r, h with
    | [], _ => rfl
    | .group i :: r, _ => rfl
    | .literal t :: r, h => exact absurd ⟨rfl, rfl⟩ (h _ rfl)

/-- The letters of a text come together if no literal stands behind them. -/
theorem gather_letters (hs : s ≠ []) (h : ∀ q ∈ (gather r).head?, ¬ q.isLiteral = true) :
    gather (letters s ++ r) = .literal s :: gather r := by
  induction s with
  | nil => exact absurd rfl hs
  | cons c s ih =>
    show attach (.literal [c]) (gather (letters s ++ r)) = _
    cases s with
    | nil => exact attach_apart fun q hq hboth => h q hq hboth.2
    | cons d s =>
      rw [ih (List.cons_ne_nil d s)]
      rfl

/-- Gathering undoes spreading. -/
theorem IsNormal.gather_spread (h : IsNormal r) : gather (spread r) = r := by
  induction r with
  | nil => rfl
  | cons piece r ih =>
    have hr := ih h.tail
    have hhead := (List.isChain_cons.1 h.apart).1
    cases piece with
    | group i =>
      show attach (.group i) (gather (spread r)) = _
      rw [hr, attach_apart hhead]
    | literal s =>
      -- No literal follows, so the letters come together to this one and no more.
      rw [spread_literal, gather_letters (h.solid s List.mem_cons_self), hr]
      intro q hq hliteral
      rw [hr] at hq
      exact hhead q hq ⟨rfl, hliteral⟩

/-- Normal pieces are known by their spreading. -/
theorem IsNormal.eq_of_spread_eq {q : Replacement} (hr : IsNormal r) (hq : IsNormal q)
    (h : spread r = spread q) : r = q := by
  rw [← hr.gather_spread, h, hq.gather_spread]

/-! ### Whole strings -/

/-- What can be read is scanned to normal pieces, behind the literal that is pending. -/
theorem Reads.scan (h : Reads groups s ts) (pending : List Char) :
    ∃ r, scan groups pending s = .ok r ∧ IsNormal r ∧ spread r = letters pending ++ ts := by
  induction h generalizing pending with
  | nil => exact ⟨close pending, scan_nil, isNormal_close pending, by simp⟩
  | @plain c s ts hslash hdollar _ ih =>
    obtain ⟨r, hr, hnormal, hspread⟩ := ih (pending ++ [c])
    exact ⟨r, (scan_plain hslash hdollar).trans hr, hnormal, by simp [hspread, letters]⟩
  | @escaped c s ts hc _ ih =>
    obtain ⟨r, hr, hnormal, hspread⟩ := ih (pending ++ [c])
    exact ⟨r, (scan_escaped hc).trans hr, hnormal, by simp [hspread, letters]⟩
  | @reference d ds rest ts hd hds _ ih =>
    obtain ⟨r, hr, hnormal, hspread⟩ := ih []
    refine ⟨close pending ++ .group (readDigits (d :: ds)) :: r, ?_,
      isNormal_close_group pending hnormal, ?_⟩
    · rw [scan_reference hd hds, hr]
      rfl
    · rw [spread_append, spread_close, spread_group, hspread]
      rfl

/-- What is scanned can be read, whatever is pending. -/
theorem exists_reads_of_scan (h : scan groups pending s = .ok r) : ∃ ts, Reads groups s ts := by
  -- The cases are those of the scanner; the faults are no results.
  induction pending, s using scan.induct groups generalizing r with
  | case1 pending => exact ⟨[], .nil⟩
  | case2 pending c s hc ih =>
    rw [scan_escaped hc] at h
    obtain ⟨ts, hts⟩ := ih h
    exact ⟨_, .escaped hc hts⟩
  | case3 pending c s hc =>
    rw [scan, if_neg hc] at h
    cases h
  | case4 pending =>
    rw [scan] at h
    cases h
  | case5 pending c s _ hc ih =>
    obtain ⟨ds, rest, rfl, hds⟩ := exists_continues groups [c] s
    rw [groupNumber_reference hds] at ih
    rw [scan_reference hc hds] at h
    cases hrest : scan groups [] rest with
    | error f =>
      rw [hrest] at h
      cases h
    | ok q =>
      obtain ⟨ts, hts⟩ := ih hrest
      exact ⟨_, .reference hc hds hts⟩
  | case6 pending c s _ hc =>
    rw [scan, if_neg hc] at h
    cases h
  | case7 pending =>
    rw [scan] at h
    cases h
  | case8 pending c s hslash hslash' hdollar hdollar' ih =>
    -- The other branches take all strings that start with a backslash or a dollar sign.
    have hc : c ≠ '\\' := by
      rintro rfl
      cases s with
      | nil => exact hslash' rfl rfl
      | cons d s => exact hslash d s rfl rfl
    have hc' : c ≠ '$' := by
      rintro rfl
      cases s with
      | nil => exact hdollar' rfl rfl
      | cons d s => exact hdollar d s rfl rfl
    rw [scan_plain hc hc'] at h
    obtain ⟨ts, hts⟩ := ih h
    exact ⟨_, .plain hc hc' hts⟩

/-- The pieces that are read are normal, and spread they are the reading. -/
theorem read_eq_ok_iff : read groups s = .ok r ↔ IsNormal r ∧ Reads groups s (spread r) := by
  constructor
  · intro hr
    obtain ⟨ts, h⟩ := exists_reads_of_scan hr
    obtain ⟨q, hq, hnormal, hspread⟩ := h.scan []
    obtain rfl : q = r := Except.ok.inj (hq.symm.trans hr)
    exact ⟨hnormal, hspread ▸ h⟩
  · rintro ⟨hnormal, h⟩
    obtain ⟨q, hq, hqnormal, hspread⟩ := h.scan []
    rw [read, hq, hqnormal.eq_of_spread_eq hnormal hspread]

theorem plain_of_isDigit (h : isDigit c = true) : c ≠ '\\' ∧ c ≠ '$' :=
  ⟨ne_of_isDigit h (by decide), ne_of_isDigit h (by decide)⟩

theorem legible_plain (hslash : c ≠ '\\') (hdollar : c ≠ '$') : Legible (c :: s) ↔ Legible s := by
  constructor
  · intro h
    cases h with
    | plain _ _ h => exact h
    | escaped => exact absurd rfl hslash
    | reference => exact absurd rfl hdollar
  · exact .plain hslash hdollar

/-- Digits in front take no part in whether a string can be read. -/
theorem legible_digits_append (h : ∀ c ∈ ds, isDigit c = true) :
    Legible (ds ++ rest) ↔ Legible rest := by
  induction ds with
  | nil => rfl
  | cons c ds ih =>
    obtain ⟨hslash, hdollar⟩ := plain_of_isDigit (h c List.mem_cons_self)
    rw [List.cons_append, legible_plain hslash hdollar]
    exact ih fun d hd => h d (List.mem_cons_of_mem c hd)

/-- The strings of the grammar are those that have a reading, whatever the number of groups is. -/
theorem legible_iff (groups : Nat) : Legible s ↔ ∃ ts, Reads groups s ts := by
  constructor
  · intro h
    induction hn : s.length using Nat.strongRecOn generalizing s with
    | ind n ih =>
      cases h with
      | nil => exact ⟨[], .nil⟩
      | plain hslash hdollar h =>
        obtain ⟨ts, h⟩ := ih _ (by simp [← hn]) h rfl
        exact ⟨_, .plain hslash hdollar h⟩
      | escaped hc h =>
        obtain ⟨ts, h⟩ := ih _ (by rw [← hn, List.length_cons, List.length_cons]; omega) h rfl
        exact ⟨_, .escaped hc h⟩
      | @reference d s hd h =>
        obtain ⟨ds, rest, rfl, hds⟩ := exists_continues groups [d] s
        have hlt : rest.length < n := by
          rw [← hn, List.length_cons, List.length_cons, List.length_append]
          omega
        obtain ⟨ts, h⟩ := ih rest.length hlt ((legible_digits_append hds.digits).1 h) rfl
        exact ⟨_, .reference hd hds h⟩
  · rintro ⟨ts, h⟩
    induction h with
    | nil => exact .nil
    | plain hslash hdollar _ ih => exact .plain hslash hdollar ih
    | escaped hc _ ih => exact .escaped hc ih
    | reference hd hds _ ih => exact .reference hd ((legible_digits_append hds.digits).2 ih)

/-- An escaped text is read as its characters. -/
theorem reads_escape (groups : Nat) (s : List Char) : Reads groups (escape s) (letters s) := by
  induction s with
  | nil => exact .nil
  | cons c s ih =>
    rw [escape]
    split
    · next hc => exact .escaped hc ih
    · next hc =>
      obtain ⟨hslash, hdollar⟩ := not_or.1 hc
      exact .plain hslash hdollar ih

/-- A string is read exactly if it is legible, and otherwise it is an invalid replacement. The
    pieces have no empty literals and none side by side, and the reading from left to right is
    these pieces, letter by letter; so with the texts of the groups put in, they stand for the text
    that the reading stands for. An escaped text is read as a single literal, or as nothing. -/
theorem read_exactly (groups : Nat) (s : List Char) :
    ((∃ r, read groups s = .ok r) ↔ Legible s) ∧
    (¬ Legible s → ∃ f, read groups s = .error f ∧
      f.error.code = ErrorCode.invalidReplacement.name) ∧
    (∀ r, read groups s = .ok r ↔ IsNormal r ∧ Reads groups s (spread r)) ∧
    (∀ r ts captured, read groups s = .ok r → Reads groups s ts →
      expand captured r = expand captured ts) ∧
    read groups (escape s) = .ok (if s = [] then [] else [.literal s]) := by
  have hread : (∃ r, read groups s = .ok r) ↔ Legible s := by
    rw [legible_iff groups]
    constructor
    · rintro ⟨r, hr⟩
      exact ⟨spread r, (read_eq_ok_iff.1 hr).2⟩
    · rintro ⟨ts, h⟩
      obtain ⟨r, hr, -⟩ := h.scan []
      exact ⟨r, hr⟩
  refine ⟨hread, ?_, fun r => read_eq_ok_iff, ?_, ?_⟩
  · intro h
    cases hs : read groups s with
    | ok r => exact absurd (hread.1 ⟨r, hs⟩) h
    | error f => exact ⟨f, rfl, rfl⟩
  · intro r ts captured hr h
    obtain ⟨q, hq, -, hspread⟩ := h.scan []
    obtain rfl : q = r := Except.ok.inj (hq.symm.trans hr)
    rw [← expand_spread, hspread]
    rfl
  · have hclose : close s = if s = [] then [] else [.literal s] := by cases s <;> rfl
    rw [← hclose, read_eq_ok_iff, spread_close]
    exact ⟨isNormal_close s, reads_escape groups s⟩

/-- A reference whose second digit would name a group too many, and a dollar sign alone. -/
theorem read_exactly_last_group :
    let s := ['a', '$', '1', '0']
    let r : Replacement := [.literal ['a'], .group 1, .literal ['0']]
    read 1 s = .ok r ∧ Legible s ∧ Reads 1 s (spread r) ∧
      expand (fun _ => ['x']) r = expand (fun _ => ['x']) (spread r) ∧
      ¬ Legible ['$'] ∧ ∃ f, read 1 ['$'] = .error f ∧
        f.error.code = ErrorCode.invalidReplacement.name := by
  intro s r
  have hr : read 1 s = .ok r := by decide +kernel
  have hreads := (((read_exactly 1 s).2.2.1 r).1 hr).2
  have hbad : ¬ Legible ['$'] := by
    intro h
    cases h with
    | plain _ hdollar => exact hdollar rfl
  exact ⟨hr, (read_exactly 1 s).1.1 ⟨r, hr⟩, hreads,
    (read_exactly 1 s).2.2.2.1 r (spread r) _ hr hreads, hbad, (read_exactly 1 ['$']).2.1 hbad⟩

end Replacement

end XPathData
