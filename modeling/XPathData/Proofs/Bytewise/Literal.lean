import XPathData.Atomic.Cast
import XPathData.Proofs.Bytewise.Slice
import XPathData.Proofs.Calendar.Grammar

/-! # Literals by bytes

  A timezone is looked for at offsets from the end of a text, and the components of a duration and
  the parts of a number are cut out at offsets that are carried along. Here they are read that
  way, every offset checked. Reading in characters gives the same, so no offset is ever wrong,
  whatever the text is: a byte tells of a boundary only if it is an ASCII one, and all bytes that
  are asked for are compared with such.

  * `Bytewise.CheckedExcept` — errors that have a meaning, apart from wrong offsets
  * `Bytewise.takeZone_eq` — the timezone at the end
  * `Bytewise.components_eq` — the components of a duration
  * `Bytewise.readBinary?_eq` — floating-point numbers
-/

namespace XPathData.Bytewise

open Text Calendar Reading

/-! ### Errors that have a meaning -/

/-- A computation with errors of its own, all of whose offsets have to be right. -/
abbrev CheckedExcept (ε α : Type) := ExceptT ε Checked α

section Steps

variable {ε α β : Type}

/-- A question that has an answer is a step that does nothing. -/
theorem checked_bind {question : Checked α} {a : α} (h : question = .ok a)
    (f : α → CheckedExcept ε β) : ((liftM question : CheckedExcept ε α) >>= f) = f a := by
  rw [h]
  rfl

/-- A step without questions is one outside of the checks, if what follows is. -/
theorem outcome_bind (r : Except ε α) {f : α → CheckedExcept ε β} {g : α → Except ε β}
    (h : ∀ a, r = .ok a → f a = liftM (g a)) :
    ((liftM r : CheckedExcept ε α) >>= f) = liftM (r >>= g) := by
  cases r with
  | error e => rfl
  | ok a => exact h a rfl

end Steps

variable {s : String} {body hours minutes : List Char} {negative : Bool}

/-! ### Timezones -/

/-- The text ends with a sign, two bytes, a colon and two bytes. -/
def endsWithZone (s : String) : Checked Bool := do
  if s.utf8ByteSize < 6 then return false
  let sign ← byteAt s (← fromEnd s 6)
  if sign = '+'.toUInt8 ∨ sign = '-'.toUInt8 then
    return (← byteAt s (← fromEnd s 3)) = ':'.toUInt8
  else return false

/-- Takes a timezone off the end. -/
def takeZone (s : String) : CheckedExcept LexicalFault (List Char × Option Offset) := do
  if s.toList.getLast? = some 'Z' then return (s.toList.dropLast, some .utc)
  if ← endsWithZone s then
    let hours ← readTwoDigits (← slice s (← fromEnd s 5) (← fromEnd s 3))
    let minutes ← readTwoDigits (← slice s (← fromEnd s 2) s.utf8ByteSize)
    if 14 < hours ∨ 59 < minutes ∨ (hours = 14 ∧ minutes ≠ 0) then throw .outOfRange
    let seconds : Int := hours * 3600 + minutes * 60
    let negative := (← byteAt s (← fromEnd s 6)) = '-'.toUInt8
    let offset ← orOutOfRange (Bounded.ofInt? (if negative then -seconds else seconds))
    return (← slice s 0 (← fromEnd s 6), some offset)
  else return (s.toList, none)

/-- The sign of an offset. -/
def signOf (negative : Bool) : Char := if negative then '-' else '+'

theorem signOf_ascii (negative : Bool) : (signOf negative).toNat < 128 := by
  cases negative <;> decide

/-- A text with what is looked for at its end. -/
structure ZoneShape (s : String) (body : List Char) (negative : Bool)
    (hours minutes : List Char) : Prop where
  text : s.toList = body ++ signOf negative :: (hours ++ ':' :: minutes)
  hours_size : utf8Size hours = 2
  minutes_size : utf8Size minutes = 2

theorem zoneParts?_eq_some_iff :
    zoneParts? s.toList = some (body, negative, hours, minutes) ↔
      ZoneShape s body negative hours minutes := by
  constructor
  · intro h
    obtain ⟨htext, hhours, hminutes⟩ := zoneParts?_eq_some h
    exact ⟨htext, hhours, hminutes⟩
  · rintro ⟨htext, hhours, hminutes⟩
    rw [htext, zoneParts?_append _ _ hhours hminutes]
    cases negative <;> rfl

namespace ZoneShape

variable (h : ZoneShape s body negative hours minutes)
include h

theorem size_eq : s.utf8ByteSize = utf8Size body + 6 := by
  have hcolon : (':').utf8Size = 1 := by decide
  rw [← utf8Size_toList, h.text, utf8Size_append, utf8Size_cons, utf8Size_append, utf8Size_cons,
    h.hours_size, h.minutes_size, hcolon, utf8Size_of_ascii (signOf_ascii negative)]

theorem fromEnd_eq {n : Nat} (hn : n ≤ 6) : fromEnd s n = .ok (utf8Size body + (6 - n)) := by
  have hsize := h.size_eq
  rw [fromEnd, if_pos (by omega), hsize, Nat.add_sub_assoc hn]

theorem sign_eq : byteAt s (utf8Size body) = .ok (signOf negative).toUInt8 :=
  (byteAt_eq_ascii_iff (signOf_ascii negative)).2 ⟨body, _, h.text, rfl⟩

theorem colon_eq : byteAt s (utf8Size body + 3) = .ok (':').toUInt8 := by
  refine (byteAt_eq_ascii_iff (by decide)).2 ⟨body ++ signOf negative :: hours, minutes, ?_, ?_⟩
  · rw [h.text, List.append_assoc, List.cons_append]
  · rw [utf8Size_append, utf8Size_cons, h.hours_size, utf8Size_of_ascii (signOf_ascii negative)]

theorem body_eq : slice s 0 (utf8Size body) = .ok body := slice_zero h.text

theorem hours_eq : slice s (utf8Size body + 1) (utf8Size body + 3) = .ok hours := by
  have hsize : utf8Size (body ++ [signOf negative]) = utf8Size body + 1 :=
    utf8Size_concat (signOf_ascii negative)
  refine slice_eq_ok_iff.2 ⟨body ++ [signOf negative], ':' :: minutes, ?_, hsize, ?_⟩
  · rw [h.text, List.append_assoc, List.append_assoc, List.singleton_append]
  · rw [hsize, h.hours_size]

theorem minutes_eq : slice s (utf8Size body + 4) s.utf8ByteSize = .ok minutes := by
  have hsize : utf8Size (body ++ signOf negative :: (hours ++ [':'])) = utf8Size body + 4 := by
    rw [utf8Size_append, utf8Size_cons, utf8Size_concat (by decide), h.hours_size,
      utf8Size_of_ascii (signOf_ascii negative)]
  rw [← hsize]
  refine slice_to_end ?_
  rw [h.text, List.append_assoc, List.cons_append, List.append_assoc, List.singleton_append]

end ZoneShape

/-- Two bytes tell of the shape: they start characters, and nothing but the fields is left between
    these. -/
theorem exists_zoneShape_iff {sign colon : UInt8} (hsize : 6 ≤ s.utf8ByteSize)
    (hsign : byteAt s (s.utf8ByteSize - 6) = .ok sign)
    (hcolon : byteAt s (s.utf8ByteSize - 3) = .ok colon) :
    (∃ body negative hours minutes, ZoneShape s body negative hours minutes) ↔
      (sign = ('+').toUInt8 ∨ sign = ('-').toUInt8) ∧ colon = (':').toUInt8 := by
  constructor
  · rintro ⟨body, negative, hours, minutes, h⟩
    have hsix : s.utf8ByteSize - 6 = utf8Size body := by rw [h.size_eq, Nat.add_sub_cancel]
    have hthree : s.utf8ByteSize - 3 = utf8Size body + 3 := by rw [h.size_eq]; rfl
    rw [hsix, h.sign_eq] at hsign
    rw [hthree, h.colon_eq] at hcolon
    cases hsign
    cases hcolon
    exact ⟨by cases negative <;> simp [signOf], rfl⟩
  · rintro ⟨hsigns, rfl⟩
    obtain ⟨negative, rfl⟩ : ∃ negative, sign = (signOf negative).toUInt8 := by
      rcases hsigns with rfl | rfl
      · exact ⟨false, rfl⟩
      · exact ⟨true, rfl⟩
    obtain ⟨body, behind, htext, hbody⟩ := (byteAt_eq_ascii_iff (signOf_ascii negative)).1 hsign
    obtain ⟨front, minutes, htext', hfront⟩ := (byteAt_eq_ascii_iff (by decide)).1 hcolon
    have hone : utf8Size (body ++ [signOf negative]) = utf8Size body + 1 :=
      utf8Size_concat (signOf_ascii negative)
    -- The hours are what stands between the sign and the colon.
    obtain ⟨hours, rfl, rfl⟩ : ∃ hours, front = body ++ [signOf negative] ++ hours ∧
        behind = hours ++ ':' :: minutes := by
      refine exists_between ?_ (by omega)
      rw [List.append_assoc, List.singleton_append, ← htext, htext']
    have htotal : s.utf8ByteSize = utf8Size body + 1 + utf8Size hours + 1 + utf8Size minutes := by
      rw [← utf8Size_toList, htext', utf8Size_append, utf8Size_append, hone, utf8Size_cons,
        utf8Size_of_ascii (by decide), ← Nat.add_assoc]
    rw [utf8Size_append, hone] at hfront
    exact ⟨body, negative, hours, minutes, htext, by omega, by omega⟩

/-- Where there are enough bytes, none of them is asked for in vain, and they tell whether there is
    a timezone, whatever the text is. -/
theorem endsWithZone_eq (s : String) : endsWithZone s = .ok (zoneParts? s.toList).isSome := by
  have hparts : (zoneParts? s.toList).isSome = true ↔
      ∃ body negative hours minutes, ZoneShape s body negative hours minutes := by
    simp only [Option.isSome_iff_exists, Prod.exists, zoneParts?_eq_some_iff]
  by_cases hsize : s.utf8ByteSize < 6
  · have hnone : (zoneParts? s.toList).isSome = false := by
      rw [← Bool.not_eq_true, hparts]
      rintro ⟨body, negative, hours, minutes, h⟩
      have htotal := h.size_eq
      omega
    rw [hnone, endsWithZone, if_pos hsize]
    rfl
  · have hsix : fromEnd s 6 = .ok (s.utf8ByteSize - 6) := if_pos (by omega)
    have hthree : fromEnd s 3 = .ok (s.utf8ByteSize - 3) := if_pos (by omega)
    obtain ⟨sign, hsign⟩ := exists_byteAt (s := s) (i := s.utf8ByteSize - 6) (by omega)
    obtain ⟨colon, hcolon⟩ := exists_byteAt (s := s) (i := s.utf8ByteSize - 3) (by omega)
    have hrun : endsWithZone s =
        .ok (decide ((sign = ('+').toUInt8 ∨ sign = ('-').toUInt8) ∧ colon = (':').toUInt8)) := by
      simp only [endsWithZone, if_neg hsize, hsix, hthree, hsign, hcolon, bind, Except.bind]
      split
      · next hsigns => simp only [hsigns, true_and, pure, Except.pure]
      · next hsigns => simp only [hsigns, false_and, decide_false, pure, Except.pure]
    rw [hrun, ← decide_eq_decide.2 (hparts.trans (exists_zoneShape_iff (by omega) hsign hcolon)),
      Bool.decide_coe]

/-- No offset is wrong where a timezone is taken off the end, and what is taken is the same. -/
theorem takeZone_eq (s : String) : takeZone s = liftM (Calendar.takeZone s.toList) := by
  unfold takeZone Calendar.takeZone
  split
  · rfl
  · rw [checked_bind (endsWithZone_eq s)]
    cases hparts : zoneParts? s.toList with
    | none => rfl
    | some parts =>
      obtain ⟨body, negative, hours, minutes⟩ := parts
      have h := zoneParts?_eq_some_iff.1 hparts
      have hsix : fromEnd s 6 = .ok (utf8Size body) := h.fromEnd_eq (Nat.le_refl 6)
      have hminus : ((signOf negative).toUInt8 = ('-').toUInt8) = (negative = true) := by
        cases negative <;> decide
      simp only [Option.isSome_some, if_true]
      rw [checked_bind (h.fromEnd_eq (by decide)), checked_bind (h.fromEnd_eq (by decide)),
        checked_bind h.hours_eq]
      refine outcome_bind _ fun hour _ => ?_
      rw [checked_bind (h.fromEnd_eq (by decide)), checked_bind h.minutes_eq]
      refine outcome_bind _ fun minute _ => ?_
      split
      · rfl
      · rw [checked_bind hsix, checked_bind h.sign_eq]
        simp only [hminus]
        refine outcome_bind _ fun offset _ => ?_
        rw [checked_bind hsix, checked_bind h.body_eq]
        rfl

/-! ### Components of durations -/

/-- Reads the components in the rest of a text. The rest starts at the offset `i`, the numeral
    before it at `start`, and that many letters of `order` are passed. -/
def componentsFrom (order : List Char) (s : String) :
    List Char → Nat → Nat → Nat → CheckedExcept LexicalFault (List (List Char × Char))
  | [], _, start, _ => if start = s.utf8ByteSize then return [] else throw .malformed
  | c :: rest, i, start, passed =>
    if isDigit c || (c == '.' && order.contains 'S') then
      componentsFrom order s rest (i + c.utf8Size) start passed
    else do
      match (← itemsFrom order passed).findIdx? (· == c) with
      | none => throw .malformed
      | some n =>
        let numeral ← slice s start i
        if numeral.isEmpty || (numeral.contains '.' && c != 'S') then throw .malformed
        else
          let next := i + c.utf8Size
          return (numeral, c) :: (← componentsFrom order s rest next next (passed + n + 1))

/-- Cuts a text into numerals and the letters after them, which come in some order. -/
def components (order : List Char) (s : String) :
    CheckedExcept LexicalFault (List (List Char × Char)) := componentsFrom order s s.toList 0 0 0

/-- The letters from the first `c` on, by its place. -/
theorem dropWhile_ne_eq (letters : List Char) (c : Char) :
    letters.dropWhile (· != c) = match letters.findIdx? (· == c) with
      | none => []
      | some n => c :: letters.drop (n + 1) := by
  induction letters with
  | nil => rfl
  | cons x letters ih =>
    by_cases hx : x = c
    · subst hx
      simp [List.findIdx?_cons]
    · rw [List.dropWhile_cons, List.findIdx?_cons, if_pos (by simpa using hx), ih]
      simp only [beq_iff_eq, hx]
      cases letters.findIdx? (· == c) <;> rfl

/-- What the loop keeps: the text is what is done with, the numeral and the rest, the offsets are
    the cuts between them, and no more letters are passed than there are. -/
theorem componentsFrom_eq (order : List Char) {before numeral rest : List Char} {passed : Nat}
    (hs : s.toList = before ++ numeral ++ rest) (hpassed : passed ≤ order.length) :
    componentsFrom order s rest (utf8Size before + utf8Size numeral) (utf8Size before) passed =
      liftM (DurationLiteral.components (order.contains 'S') (order.drop passed) numeral rest) := by
  induction rest generalizing before numeral passed with
  | nil =>
    have hend : (utf8Size before = s.utf8ByteSize) = (numeral.isEmpty = true) := by
      rw [← utf8Size_toList, hs, List.append_nil, utf8Size_append, eq_iff_iff, List.isEmpty_iff,
        ← utf8Size_eq_zero_iff]
      omega
    rw [componentsFrom, DurationLiteral.components]
    simp only [hend]
    split <;> rfl
  | cons c rest ih =>
    rw [componentsFrom, DurationLiteral.components]
    by_cases hc : (isDigit c || (c == '.' && order.contains 'S')) = true
    · rw [if_pos hc, if_pos hc]
      -- The character belongs to the numeral.
      have hcut : s.toList = before ++ (numeral ++ [c]) ++ rest := by
        rw [hs, List.append_assoc, List.append_assoc, List.append_assoc, List.singleton_append]
      rw [← ih hcut hpassed, utf8Size_append, Nat.add_assoc]
      rfl
    · rw [if_neg hc, if_neg hc, checked_bind (itemsFrom_eq hpassed), dropWhile_ne_eq]
      cases hfind : (order.drop passed).findIdx? (· == c) with
      | none => rfl
      | some n =>
        have hn := (List.findIdx?_eq_some_iff_findIdx_eq.1 hfind).1
        rw [List.length_drop] at hn
        have hnumeral : slice s (utf8Size before) (utf8Size before + utf8Size numeral) =
            .ok numeral := slice_of_toList hs
        dsimp only
        rw [checked_bind hnumeral]
        split
        · rfl
        · -- The next numeral starts behind the letter, with the letters that are left.
          have hcut : s.toList = before ++ numeral ++ [c] ++ [] ++ rest := by
            rw [hs, List.append_nil, List.append_assoc (before ++ numeral), List.singleton_append]
          have hnext : utf8Size before + utf8Size numeral + c.utf8Size =
              utf8Size (before ++ numeral ++ [c]) := by
            rw [utf8Size_append, utf8Size_append]
            rfl
          have hleft : passed + n + 1 ≤ order.length := by omega
          have hmore := ih hcut hleft
          rw [List.drop_drop, hnext]
          refine (congrArg (· >>= _) hmore).trans ?_
          rw [Nat.add_assoc]
          cases DurationLiteral.components (order.contains 'S') (order.drop (passed + (n + 1))) []
            rest <;> rfl

/-- Every numeral is cut out at right offsets, and the letters are looked for among those that
    there are. -/
theorem components_eq (order : List Char) (s : String) :
    components order s =
      liftM (DurationLiteral.components (order.contains 'S') order [] s.toList) := by
  have hs : s.toList = [] ++ [] ++ s.toList := rfl
  exact componentsFrom_eq order hs (Nat.zero_le _)

/-! ### Floating-point numbers -/

/-- The offset of the first character of a class. -/
def offsetOf? (p : Char → Bool) : List Char → Option Nat
  | [] => none
  | c :: s => if p c then some 0 else (offsetOf? p s).map (c.utf8Size + ·)

/-- The text is cut where the first character of the class is. -/
theorem offsetOf?_eq_some {p : Char → Bool} {l : List Char} {i : Nat}
    (h : offsetOf? p l = some i) :
    utf8Size (l.takeWhile (!p ·)) = i ∧ ∃ c rest, l.dropWhile (!p ·) = c :: rest ∧ p c = true := by
  induction l generalizing i with
  | nil => cases h
  | cons c l ih =>
    rw [offsetOf?] at h
    by_cases hc : p c = true
    · rw [if_pos hc] at h
      cases h
      exact ⟨by simp [hc, utf8Size], c, l, by simp [hc], hc⟩
    · rw [if_neg hc] at h
      obtain ⟨n, hn, rfl⟩ := Option.map_eq_some_iff.1 h
      obtain ⟨hsize, hrest⟩ := ih hn
      simp only [List.takeWhile_cons, List.dropWhile_cons, hc, Bool.not_false, if_true]
      exact ⟨congrArg (c.utf8Size + ·) hsize, hrest⟩

theorem offsetOf?_eq_none {p : Char → Bool} {l : List Char} (h : offsetOf? p l = none) :
    l.takeWhile (!p ·) = l ∧ l.dropWhile (!p ·) = [] := by
  induction l with
  | nil => exact ⟨rfl, rfl⟩
  | cons c l ih =>
    rw [offsetOf?] at h
    by_cases hc : p c = true
    · rw [if_pos hc] at h
      cases h
    · rw [if_neg hc] at h
      obtain ⟨htake, hdrop⟩ := ih (Option.map_eq_none_iff.1 h)
      simp only [List.takeWhile_cons, List.dropWhile_cons, hc, Bool.not_false, if_true, htake,
        hdrop, and_self]

/-- The mark before an exponent. -/
def isMark (c : Char) : Bool := c == 'e' || c == 'E'

/-- The text before the first mark, and the text behind it if there is one. -/
def cutAtMark (s : String) : Checked (List Char × Option (List Char)) :=
  match offsetOf? isMark s.toList with
  | some i => do return (← slice s 0 i, some (← slice s (i + 1) s.utf8ByteSize))
  | none => return (s.toList, none)

/-- Reads a floating-point literal: a numeral or one of the three words. -/
def readBinary? (f : BinaryFormat) (s : String) : Checked (Option (Binary f)) := do
  if s.toList = "INF".toList then return some (.infinity false)
  if s.toList = "-INF".toList then return some (.infinity true)
  if s.toList = "NaN".toList then return some .nan
  let (mantissa, exponent) ← cutAtMark s
  if !Decimal.isLexical mantissa || exponent.any (!Atomic.isIntegerForm ·) then return none
  return some (.ofLiteral f s.toList)

/-- A mark has one byte, so that the exponent starts right behind it. -/
theorem cutAtMark_eq (s : String) :
    cutAtMark s = .ok (s.toList.takeWhile (!isMark ·),
      match s.toList.dropWhile (!isMark ·) with
      | [] => none
      | _ :: exponent => some exponent) := by
  unfold cutAtMark
  cases hoffset : offsetOf? isMark s.toList with
  | none =>
    obtain ⟨htake, hdrop⟩ := offsetOf?_eq_none hoffset
    rw [htake, hdrop]
    rfl
  | some i =>
    obtain ⟨rfl, c, exponent, hrest, hc⟩ := offsetOf?_eq_some hoffset
    have hs : s.toList = s.toList.takeWhile (!isMark ·) ++ c :: exponent := by
      rw [← hrest, List.takeWhile_append_dropWhile]
    have hmark : c.toNat < 128 := by
      rcases Bool.or_eq_true_iff.1 hc with h | h
      · rw [eq_of_beq h]
        decide
      · rw [eq_of_beq h]
        decide
    have hbehind : slice s (utf8Size (s.toList.takeWhile (!isMark ·)) + 1) s.utf8ByteSize =
        .ok exponent := by
      rw [← utf8Size_concat hmark]
      refine slice_to_end ?_
      rw [List.append_assoc, List.singleton_append, ← hs]
    simp only [slice_zero hs, hbehind, hrest]
    rfl

/-- The form of a numeral by its parts. -/
theorem isDoubleForm_eq (l : List Char) :
    Atomic.isDoubleForm l = (Decimal.isLexical (l.takeWhile (!isMark ·)) &&
      match l.dropWhile (!isMark ·) with
      | [] => true
      | _ :: exponent => Atomic.isIntegerForm exponent) := by
  have hmark : (fun c => c != 'e' && c != 'E') = (!isMark ·) :=
    funext fun c => (Bool.not_or _ _).symm
  unfold Atomic.isDoubleForm
  rw [hmark]
  dsimp only
  cases l.dropWhile (!isMark ·) with
  | nil => rw [Bool.and_true]
  | cons c exponent => rfl

/-- No offset is wrong where a number is cut at its mark, and what is read is the same. -/
theorem readBinary?_eq (f : BinaryFormat) (s : String) :
    readBinary? f s = .ok (Atomic.readBinary? f s.toList) := by
  unfold readBinary? Atomic.readBinary?
  rw [isDoubleForm_eq, cutAtMark_eq]
  split
  · rfl
  · split
    · rfl
    · split
      · rfl
      · dsimp only [bind, Except.bind]
        cases Decimal.isLexical (s.toList.takeWhile (!isMark ·)) with
        | false => rfl
        | true =>
          cases s.toList.dropWhile (!isMark ·) with
          | nil => rfl
          | cons c exponent =>
            dsimp only [Option.any]
            by_cases hform : Atomic.isIntegerForm exponent = true
            · simp only [hform]
              rfl
            · simp only [hform]
              rfl

end XPathData.Bytewise
