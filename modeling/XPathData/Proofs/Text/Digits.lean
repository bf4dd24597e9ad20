import Mathlib.Data.List.Induction
import Mathlib.Data.List.TakeWhile
import Mathlib.Tactic.Ring
import XPathData.Text.Digits
import XPathData.Text.Space
import XPathData.Text.Split

/-! # Digits read back

  The digits that a number is written with are read as this number, with or without zeros in
  front of them. What stands around numerals is cut off at the first mark, and blanks are trimmed.

  * `Text.readDigits_writeNat`, `Text.readDigits_writePadded` — reading what was written
  * `Text.readDigits_append` — a numeral in two pieces
  * `Text.length_writePadded`, `Text.head?_writeNat` — how a written number looks
  * `Text.splitFirst_append`, `Text.splitLast_append` — a text is cut at the first or last place
    of a mark
  * `Text.trim_eq_self`, `Text.trim_append` — what is left of a text when it is trimmed
  * `Text.takeBytes_eq_some`, `Text.takeBytes_append` — characters with so many bytes
-/

namespace XPathData.Text

/-! ### Single digits -/

theorem isDigit_iff {c : Char} : isDigit c = true ↔ 48 ≤ c.toNat ∧ c.toNat ≤ 57 := by
  unfold isDigit
  rw [Bool.and_eq_true, decide_eq_true_iff, decide_eq_true_iff]
  exact Iff.rfl

theorem isDigit_digitChar (n : Nat) : isDigit (digitChar n) = true := by
  have hall : ∀ i : Fin 10, isDigit (Char.ofNat ('0'.toNat + i)) = true := by decide
  exact hall ⟨n % 10, Nat.mod_lt n (by decide)⟩

theorem digitValue_digitChar (n : Nat) : digitValue (digitChar n) = n % 10 := by
  have hall : ∀ i : Fin 10, digitValue (Char.ofNat ('0'.toNat + i)) = i := by decide
  exact hall ⟨n % 10, Nat.mod_lt n (by decide)⟩

theorem ne_of_isDigit {c d : Char} (hc : isDigit c = true) (hd : isDigit d = false) : c ≠ d := by
  rintro rfl
  rw [hc] at hd
  cases hd

theorem isUnicodeSpace_of_isDigit {c : Char} (h : isDigit c = true) :
    isUnicodeSpace c = false := by
  have hc := isDigit_iff.1 h
  unfold isUnicodeSpace
  simp
  omega

/-! ### Numerals -/

theorem readDigits_concat (s : List Char) (c : Char) :
    readDigits (s ++ [c]) = 10 * readDigits s + digitValue c := by
  unfold readDigits
  rw [List.foldl_append]
  rfl

/-- The first piece of a numeral counts by the length of the second. -/
theorem readDigits_append (s t : List Char) :
    readDigits (s ++ t) = readDigits s * 10 ^ t.length + readDigits t := by
  -- A numeral grows at its end, and so does the induction.
  induction t using List.reverseRecOn with
  | nil => simp [readDigits]
  | append_singleton t c ih =>
    rw [← List.append_assoc, readDigits_concat, readDigits_concat, ih, List.length_append,
      List.length_singleton, pow_succ]
    ring

/-- A numeral of some digits is below the power of ten with as many zeros. -/
theorem readDigits_lt {s : List Char} (h : s.all isDigit = true) :
    readDigits s < 10 ^ s.length := by
  induction s using List.reverseRecOn with
  | nil => decide
  | append_singleton s c ih =>
    rw [List.all_append, Bool.and_eq_true] at h
    have hc : digitValue c ≤ 9 := by
      have hbounds := isDigit_iff.1 (List.all_eq_true.1 h.2 c List.mem_cons_self)
      unfold digitValue
      simp only [Char.reduceToNat]
      omega
    have hs := ih h.1
    rw [readDigits_concat, List.length_append, List.length_singleton, pow_succ]
    omega

theorem readDigits_zeros (n : Nat) : readDigits (List.replicate n '0') = 0 := by
  induction n with
  | zero => rfl
  | succ n ih =>
    rw [List.replicate_succ', readDigits_concat, ih]
    rfl

/-! ### Writing -/

/-- A number is read back from its digits. -/
theorem readDigits_writeNat (m : Nat) : readDigits (writeNat m) = m := by
  induction m using Nat.strong_induction_on with
  | _ m ih =>
    unfold writeNat
    split
    · next h =>
      have hlast := readDigits_concat [] (digitChar m)
      rw [digitValue_digitChar, Nat.mod_eq_of_lt h] at hlast
      simpa [readDigits] using hlast
    · next h =>
      rw [readDigits_concat, ih (m / 10) (by omega), digitValue_digitChar]
      omega

theorem writeNat_all_isDigit (m : Nat) : (writeNat m).all isDigit = true := by
  induction m using Nat.strong_induction_on with
  | _ m ih =>
    unfold writeNat
    split
    · simp [isDigit_digitChar]
    · next h => simp [List.all_append, ih (m / 10) (by omega), isDigit_digitChar]

theorem writeNat_ne_nil (m : Nat) : writeNat m ≠ [] := by
  unfold writeNat
  split <;> simp

theorem readDigits_writePadded (width m : Nat) : readDigits (writePadded width m) = m := by
  unfold writePadded
  rw [readDigits_append, readDigits_zeros, readDigits_writeNat]
  omega

theorem writePadded_all_isDigit (width m : Nat) : (writePadded width m).all isDigit = true := by
  unfold writePadded
  rw [List.all_append, Bool.and_eq_true]
  refine ⟨?_, writeNat_all_isDigit m⟩
  rw [List.all_eq_true]
  intro c hc
  rw [List.eq_of_mem_replicate hc]
  rfl

theorem le_length_writePadded (width m : Nat) : width ≤ (writePadded width m).length := by
  unfold writePadded
  rw [List.length_append, List.length_replicate]
  omega

/-- A number below a power of ten has no more digits than the exponent. -/
theorem length_writeNat_le {width m : Nat} (hwidth : 1 ≤ width) (h : m < 10 ^ width) :
    (writeNat m).length ≤ width := by
  induction width, hwidth using Nat.le_induction generalizing m with
  | base =>
    unfold writeNat
    rw [if_pos (show m < 10 from h)]
    exact Nat.le_refl 1
  | succ width hwidth ih =>
    unfold writeNat
    split
    · simp
    · have hrest : (writeNat (m / 10)).length ≤ width :=
        ih (Nat.div_lt_of_lt_mul (by rw [Nat.mul_comm, ← pow_succ]; exact h))
      rw [List.length_append, List.length_singleton]
      omega

theorem length_writePadded {width m : Nat} (hwidth : 1 ≤ width) (h : m < 10 ^ width) :
    (writePadded width m).length = width := by
  have hle := length_writeNat_le hwidth h
  unfold writePadded
  rw [List.length_append, List.length_replicate]
  omega

/-- Only zero begins with a zero. -/
theorem head?_writeNat {m : Nat} (h : 0 < m) : (writeNat m).head? ≠ some '0' := by
  induction m using Nat.strong_induction_on with
  | _ m ih =>
    unfold writeNat
    split
    · next hlt =>
      have hall : ∀ i : Fin 10, 0 < i.val → Char.ofNat ('0'.toNat + i % 10) ≠ '0' := by decide
      simpa [digitChar] using hall ⟨m, hlt⟩ h
    · next hge =>
      obtain ⟨c, t, hc⟩ := List.exists_cons_of_ne_nil (writeNat_ne_nil (m / 10))
      have hfirst := ih (m / 10) (by omega) (by omega)
      rw [hc] at hfirst ⊢
      exact hfirst

/-- Zeros that were left out at the end are filled in again. -/
theorem dropWhile_zeros_append (s : List Char) :
    (s.reverse.dropWhile (· == '0')).reverse ++
      List.replicate (s.length - (s.reverse.dropWhile (· == '0')).reverse.length) '0' = s := by
  have hsplit := List.takeWhile_append_dropWhile (p := (· == '0')) (l := s.reverse)
  have hzeros : s.reverse.takeWhile (· == '0') =
      List.replicate (s.reverse.takeWhile (· == '0')).length '0' := by
    rw [List.eq_replicate_iff]
    refine ⟨rfl, fun c hc => ?_⟩
    simpa using List.all_eq_true.1 List.all_takeWhile c hc
  have hlength := congrArg List.length hsplit
  rw [List.length_append, List.length_reverse] at hlength
  rw [List.length_reverse, ← hlength, Nat.add_sub_cancel]
  conv_rhs =>
    rw [← s.reverse_reverse, ← hsplit, hzeros, List.reverse_append, List.reverse_replicate]

/-! ### Marks and blanks -/

theorem dropLead?_append (lead s : List Char) : dropLead? lead (lead ++ s) = some s := by
  induction lead with
  | nil => rfl
  | cons c lead ih =>
    show (if c == c then dropLead? lead (lead ++ s) else none) = some s
    rw [beq_self_eq_true]
    exact ih

theorem splitFirst_of_not_mem {c : Char} {s : List Char} (h : c ∉ s) : splitFirst c s = none := by
  induction s with
  | nil => rfl
  | cons x s ih =>
    have hx : x ≠ c := fun hx => h (hx ▸ List.mem_cons_self)
    unfold splitFirst
    rw [if_neg hx, ih fun hs => h (List.mem_cons_of_mem x hs)]
    rfl

theorem splitFirst_append {c : Char} {s : List Char} (h : c ∉ s) (t : List Char) :
    splitFirst c (s ++ c :: t) = some (s, t) := by
  induction s with
  | nil => simp [splitFirst]
  | cons x s ih =>
    have hx : x ≠ c := fun hx => h (hx ▸ List.mem_cons_self)
    rw [List.cons_append, splitFirst, if_neg hx, ih fun hs => h (List.mem_cons_of_mem x hs)]
    rfl

theorem splitLast_of_not_mem {c : Char} {s : List Char} (h : c ∉ s) : splitLast c s = none := by
  induction s with
  | nil => rfl
  | cons x s ih =>
    have hx : x ≠ c := fun hx => h (hx ▸ List.mem_cons_self)
    unfold splitLast
    rw [ih fun hs => h (List.mem_cons_of_mem x hs), if_neg hx]

theorem splitLast_append {c : Char} {t : List Char} (h : c ∉ t) (s : List Char) :
    splitLast c (s ++ c :: t) = some (s, t) := by
  induction s with
  | nil =>
    rw [List.nil_append, splitLast, splitLast_of_not_mem h]
    exact if_pos rfl
  | cons x s ih => rw [List.cons_append, splitLast, ih]

theorem isXmlSpace_le {c : Char} (h : isUnicodeSpace c = false) : isXmlSpace c = false := by
  unfold isXmlSpace
  have hne (d : Char) (hd : isUnicodeSpace d = true) : (c == d) = false := by
    rw [beq_eq_false_iff_ne]
    rintro rfl
    rw [h] at hd
    cases hd
  rw [hne ' ' (by decide), hne '\t' (by decide), hne '\n' (by decide), hne '\r' (by decide)]
  rfl

theorem trim_eq_self {blank : Char → Bool} {s : List Char} (h : ∀ c ∈ s, blank c = false) :
    trim blank s = s := by
  have hfront (t : List Char) (ht : ∀ c ∈ t, blank c = false) : t.dropWhile blank = t := by
    cases t with
    | nil => rfl
    | cons c t => rw [List.dropWhile_cons_of_neg (by simp [ht c List.mem_cons_self])]
  unfold trim
  rw [hfront s h, hfront s.reverse (by simpa using h), List.reverse_reverse]

/-- Only blanks are trimmed. -/
theorem exists_trim (blank : Char → Bool) (s : List Char) :
    ∃ before after, s = before ++ trim blank s ++ after ∧
      ∀ c ∈ before ++ after, blank c = true := by
  let kept := s.dropWhile blank
  refine ⟨s.takeWhile blank, (kept.reverse.takeWhile blank).reverse, ?_, ?_⟩
  · have hkept : trim blank s ++ (kept.reverse.takeWhile blank).reverse = kept := by
      unfold trim
      rw [← List.reverse_append, List.takeWhile_append_dropWhile, List.reverse_reverse]
    rw [List.append_assoc, hkept, List.takeWhile_append_dropWhile]
  · intro c hc
    rcases List.mem_append.1 hc with hc | hc
    · exact List.mem_takeWhile_imp hc
    · exact List.mem_takeWhile_imp (List.mem_reverse.1 hc)

/-- Blanks around a text are trimmed with those that it begins and ends with itself. -/
theorem trim_around {blank : Char → Bool} {before after : List Char}
    (hblank : ∀ c ∈ before ++ after, blank c = true) (s : List Char) :
    trim blank (before ++ s ++ after) = trim blank s := by
  have hbefore : ∀ c ∈ before, blank c = true :=
    fun c hc => hblank c (List.mem_append_left after hc)
  have hafter : ∀ c ∈ after, blank c = true :=
    fun c hc => hblank c (List.mem_append_right before hc)
  unfold trim
  rw [List.append_assoc, List.dropWhile_append_of_pos hbefore, List.dropWhile_append]
  cases hs : s.dropWhile blank with
  | nil =>
    rw [List.isEmpty_nil, if_pos rfl, List.dropWhile_eq_nil_iff.2 hafter]
  | cons c rest =>
    rw [List.isEmpty_cons, if_neg Bool.false_ne_true, List.reverse_append,
      List.dropWhile_append_of_pos fun c hc => hafter c (List.mem_reverse.1 hc)]

/-- Of blanks around a text without blanks nothing is left. -/
theorem trim_append {blank : Char → Bool} {before s after : List Char}
    (hblank : ∀ c ∈ before ++ after, blank c = true) (h : ∀ c ∈ s, blank c = false) :
    trim blank (before ++ s ++ after) = s :=
  (trim_around hblank s).trans (trim_eq_self h)

/-- Where all blanks of one class are blanks of another, it is enough to trim the others. -/
theorem trim_trim {blank blank' : Char → Bool} (h : ∀ c, blank' c = true → blank c = true)
    (s : List Char) : trim blank (trim blank' s) = trim blank s := by
  obtain ⟨before, after, hs, hblank⟩ := exists_trim blank' s
  calc trim blank (trim blank' s)
      = trim blank (before ++ trim blank' s ++ after) :=
        (trim_around (fun c hc => h c (hblank c hc)) _).symm
    _ = trim blank s := by rw [← hs]

/-! ### Bytes -/

theorem utf8Size_reverse (s : List Char) : utf8Size s.reverse = utf8Size s := by
  induction s with
  | nil => rfl
  | cons c s ih =>
    rw [List.reverse_cons, utf8Size_append, ih]
    exact Nat.add_comm _ _

theorem takeBytes_zero (s : List Char) : takeBytes 0 s = some ([], s) := by rw [takeBytes]

/-- The characters that are taken are cut off the text, and they have the bytes asked for. -/
theorem takeBytes_eq_some {n : Nat} {s taken rest : List Char}
    (h : takeBytes n s = some (taken, rest)) : s = taken ++ rest ∧ utf8Size taken = n := by
  induction s generalizing n taken with
  | nil =>
    cases n with
    | zero =>
      rw [takeBytes_zero] at h
      cases h
      exact ⟨rfl, rfl⟩
    | succ n =>
      rw [takeBytes] at h
      cases h
  | cons c s ih =>
    cases n with
    | zero =>
      rw [takeBytes_zero] at h
      cases h
      exact ⟨rfl, rfl⟩
    | succ n =>
      rw [takeBytes] at h
      by_cases hc : c.utf8Size ≤ n + 1
      · rw [if_pos hc] at h
        obtain ⟨⟨front, back⟩, hs, hcut⟩ := Option.map_eq_some_iff.1 h
        cases hcut
        obtain ⟨rfl, hsize⟩ := ih hs
        have hcons : utf8Size (c :: front) = c.utf8Size + utf8Size front := rfl
        exact ⟨rfl, by omega⟩
      · rw [if_neg hc] at h
        cases h

/-- Characters with as many bytes as are asked for are taken. -/
theorem takeBytes_append (s t : List Char) : takeBytes (utf8Size s) (s ++ t) = some (s, t) := by
  induction s with
  | nil => exact takeBytes_zero t
  | cons c s ih =>
    have hcons : utf8Size (c :: s) = c.utf8Size + utf8Size s := rfl
    obtain ⟨n, hn⟩ : ∃ n, utf8Size (c :: s) = n + 1 :=
      Nat.exists_eq_add_one.2 (Nat.add_pos_left c.utf8Size_pos _)
    have hleft : n + 1 - c.utf8Size = utf8Size s := by omega
    rw [hn, List.cons_append, takeBytes, if_pos (by omega), hleft, ih]
    rfl

end XPathData.Text
