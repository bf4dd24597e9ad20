import XPathData.Text.Hex
import XPathData.Text.Space

/-! # Hexadecimal digits read back

  The digits of a run of bytes are read back as these bytes. They are capital digits, two for each
  byte, and every text of such digits is that of some bytes. Digits of either case are read, in
  pairs, up to a character that has no partner. Such a character is passed over if it has an even
  number of bytes, since only the bytes of the text are counted.

  * `Text.Hex.decode?_encode` — digits are read back
  * `Text.Hex.IsCapital` — a digit as bytes are written with
  * `Text.Hex.exists_encode` — capital digits are those of some bytes
  * `Text.Hex.ReadsAs` — the digits that a text is read as
  * `Text.Hex.decode?_eq_some_iff` — which texts are read as which bytes
-/

namespace XPathData.Text.Hex

/-! ### One byte -/

theorem value?_digit {n : Nat} (h : n < 16) : value? (digit n) = some n := by
  have hall : ∀ i : Fin 16, value? (digit i) = some i.val := by decide
  exact hall ⟨n, h⟩

theorem utf8Size_digit {n : Nat} (h : n < 16) : (digit n).utf8Size = 1 := by
  have hall : ∀ i : Fin 16, (digit i).utf8Size = 1 := by decide
  exact hall ⟨n, h⟩

/-! ### Runs of bytes -/

theorem encode_cons (b : UInt8) (bytes : List UInt8) :
    encode (b :: bytes) = digit (b.toNat / 16) :: digit (b.toNat % 16) :: encode bytes := rfl

theorem utf8Size_encode (bytes : List UInt8) : utf8Size (encode bytes) = 2 * bytes.length := by
  induction bytes with
  | nil => rfl
  | cons b bytes ih =>
    have hhigh := utf8Size_digit (Nat.div_lt_of_lt_mul (n := 16) b.toNat_lt)
    have hlow := utf8Size_digit (Nat.mod_lt b.toNat (by decide : 0 < 16))
    rw [encode_cons]
    show (digit _).utf8Size + ((digit _).utf8Size + utf8Size (encode bytes)) = _
    rw [hhigh, hlow, ih, List.length_cons]
    omega

theorem decodePairs_encode (bytes : List UInt8) : decodePairs (encode bytes) = some bytes := by
  induction bytes with
  | nil => rfl
  | cons b bytes ih =>
    have hhigh := value?_digit (Nat.div_lt_of_lt_mul (n := 16) b.toNat_lt)
    have hlow := value?_digit (Nat.mod_lt b.toNat (by decide : 0 < 16))
    have hbyte : UInt8.ofNat (16 * (b.toNat / 16) + b.toNat % 16) = b := by
      rw [Nat.div_add_mod]
      exact UInt8.ofNat_toNat
    rw [encode_cons, decodePairs, hhigh, hlow, ih]
    show some (_ :: bytes) = _
    rw [hbyte]

/-- The digits of a run of bytes are read back as these bytes. -/
theorem decode?_encode (bytes : List UInt8) : decode? (encode bytes) = some bytes := by
  unfold decode?
  rw [utf8Size_encode, Nat.mul_mod_right, if_pos rfl]
  exact decodePairs_encode bytes

/-! ### Texts of bytes -/

/-- A digit as it is written. -/
def IsCapital (c : Char) : Prop := ('0' ≤ c ∧ c ≤ '9') ∨ ('A' ≤ c ∧ c ≤ 'F')

instance (c : Char) : Decidable (IsCapital c) :=
  inferInstanceAs (Decidable (('0' ≤ c ∧ c ≤ '9') ∨ ('A' ≤ c ∧ c ≤ 'F')))

theorem isCapital_digit {n : Nat} (h : n < 16) : IsCapital (digit n) := by
  have hall : ∀ i : Fin 16, IsCapital (digit i) := by decide
  exact hall ⟨n, h⟩

theorem exists_digit {c : Char} (h : IsCapital c) : ∃ n, n < 16 ∧ digit n = c := by
  have hback (first : Char) (hle : first.toNat ≤ c.toNat) :
      Char.ofNat (first.toNat + (c.toNat - first.toNat)) = c := by
    rw [Nat.add_sub_cancel' hle, Char.ofNat_toNat]
  rcases h with ⟨hlow, hhigh⟩ | ⟨hlow, hhigh⟩
  · have hhigh : c.toNat ≤ 57 := hhigh
    refine ⟨c.toNat - '0'.toNat, by simp only [Char.reduceToNat]; omega, ?_⟩
    unfold digit
    rw [if_pos (by simp only [Char.reduceToNat]; omega)]
    exact hback '0' hlow
  · have hlow : 65 ≤ c.toNat := hlow
    have hhigh : c.toNat ≤ 70 := hhigh
    refine ⟨c.toNat - 'A'.toNat + 10, by simp only [Char.reduceToNat]; omega, ?_⟩
    unfold digit
    rw [if_neg (by omega), Nat.add_sub_cancel]
    exact hback 'A' hlow

theorem isAsciiSpace_of_isCapital {c : Char} (h : IsCapital c) : isAsciiSpace c = false := by
  obtain ⟨n, hn, rfl⟩ := exists_digit h
  have hall : ∀ i : Fin 16, isAsciiSpace (digit i) = false := by decide
  exact hall ⟨n, hn⟩

theorem exists_byte {c d : Char} (hc : IsCapital c) (hd : IsCapital d) :
    ∃ b : UInt8, digit (b.toNat / 16) = c ∧ digit (b.toNat % 16) = d := by
  obtain ⟨m, hm, rfl⟩ := exists_digit hc
  obtain ⟨n, hn, rfl⟩ := exists_digit hd
  refine ⟨UInt8.ofNat (16 * m + n), ?_⟩
  have hbyte : (UInt8.ofNat (16 * m + n)).toNat = 16 * m + n :=
    UInt8.toNat_ofNat_of_lt' (by simp only [UInt8.size]; omega)
  have hhigh : (16 * m + n) / 16 = m := by omega
  have hlow : (16 * m + n) % 16 = n := by omega
  rw [hbyte, hhigh, hlow]
  exact ⟨rfl, rfl⟩

theorem length_encode (bytes : List UInt8) : (encode bytes).length = 2 * bytes.length := by
  induction bytes with
  | nil => rfl
  | cons b bytes ih =>
    rw [encode_cons, List.length_cons, List.length_cons, ih, List.length_cons]
    omega

theorem isCapital_of_mem_encode {bytes : List UInt8} : ∀ c ∈ encode bytes, IsCapital c := by
  induction bytes with
  | nil => simp [encode]
  | cons b bytes ih =>
    have hhigh := isCapital_digit (Nat.div_lt_of_lt_mul (n := 16) b.toNat_lt)
    have hlow := isCapital_digit (Nat.mod_lt b.toNat (by decide : 0 < 16))
    simp only [encode_cons, List.forall_mem_cons]
    exact ⟨hhigh, hlow, ih⟩

/-- Two digits each make a byte. -/
theorem exists_encode : ∀ {s : List Char}, s.length % 2 = 0 → (∀ c ∈ s, IsCapital c) →
    ∃ bytes, encode bytes = s
  | [], _, _ => ⟨[], rfl⟩
  | [_], hlength, _ => absurd hlength (by simp)
  | c :: d :: s, hlength, h => by
    simp only [List.forall_mem_cons] at h
    obtain ⟨hc, hd, hs⟩ := h
    have hlength' : s.length % 2 = 0 := by
      rw [List.length_cons, List.length_cons] at hlength
      omega
    obtain ⟨b, rfl, rfl⟩ := exists_byte hc hd
    obtain ⟨bytes, rfl⟩ := exists_encode hlength' hs
    exact ⟨b :: bytes, rfl⟩

/-! ### What is read -/

/-- A digit as it may be read, of either case. -/
def IsDigit (c : Char) : Prop := IsCapital c ∨ ('a' ≤ c ∧ c ≤ 'f')

instance (c : Char) : Decidable (IsDigit c) :=
  inferInstanceAs (Decidable (IsCapital c ∨ ('a' ≤ c ∧ c ≤ 'f')))

theorem isSome_value?_iff {c : Char} : (value? c).isSome = true ↔ IsDigit c := by
  unfold value? IsDigit IsCapital
  split
  · next h => exact ⟨fun _ => .inl (.inl h), fun _ => rfl⟩
  · split
    · next h => exact ⟨fun _ => .inl (.inr h), fun _ => rfl⟩
    · next hdecimal hcapital =>
      split
      · next h => exact ⟨fun _ => .inr h, fun _ => rfl⟩
      · next hsmall =>
        refine iff_of_false nofun ?_
        rintro ((h | h) | h)
        · exact hdecimal h
        · exact hcapital h
        · exact hsmall h

theorem lt_of_isDigit {c : Char} (h : IsDigit c) : c.toNat < 103 := by
  have hle (d : Char) (hd : c ≤ d) : c.toNat ≤ d.toNat := hd
  rcases h with (⟨-, h⟩ | ⟨-, h⟩) | ⟨-, h⟩
  all_goals
    have hlast := hle _ h
    simp only [Char.reduceToNat] at hlast
    omega

/-- A digit has the value that its capital is written for. -/
theorem digit_value? {c : Char} {n : Nat} (h : value? c = some n) :
    n < 16 ∧ digit n = c.toUpper ∧ c.utf8Size = 1 := by
  have hall : ∀ i : Fin 103, ∀ n ∈ value? (Char.ofNat i),
      n < 16 ∧ digit n = (Char.ofNat i).toUpper ∧ (Char.ofNat i).utf8Size = 1 := by decide
  have hdigit : IsDigit c := isSome_value?_iff.1 (h ▸ rfl)
  have hchar := hall ⟨c.toNat, lt_of_isDigit hdigit⟩ n
  simp only [Char.ofNat_toNat] at hchar
  exact hchar h

/-- What a text is read as: an even number of digits, which either are all of the text or stand
    before one more character that has an even number of bytes. -/
structure ReadsAs (s digits : List Char) : Prop where
  even : digits.length % 2 = 0
  isDigit : ∀ c ∈ digits, IsDigit c
  text : s = digits ∨ ∃ c : Char, c.utf8Size % 2 = 0 ∧ s = digits ++ [c]

theorem utf8Size_of_isDigit {s : List Char} (h : ∀ c ∈ s, IsDigit c) : utf8Size s = s.length := by
  induction s with
  | nil => rfl
  | cons c s ih =>
    obtain ⟨hc, hs⟩ := List.forall_mem_cons.1 h
    obtain ⟨n, hn⟩ := Option.isSome_iff_exists.1 (isSome_value?_iff.2 hc)
    show c.utf8Size + utf8Size s = s.length + 1
    rw [(digit_value? hn).2.2, ih hs, Nat.add_comm]

theorem encode_inj {bytes bytes' : List UInt8} (h : encode bytes = encode bytes') :
    bytes = bytes' := by
  have hdecode := decode?_encode bytes
  rw [h, decode?_encode] at hdecode
  exact (Option.some.inj hdecode).symm

/-- Pairs of digits are read as bytes, up to a last character without a partner. -/
theorem decodePairs_append {rest : List Char} (hrest : rest.length ≤ 1) :
    ∀ {digits : List Char}, digits.length % 2 = 0 → (∀ c ∈ digits, IsDigit c) →
      ∃ bytes, decodePairs (digits ++ rest) = some bytes ∧
        encode bytes = digits.map Char.toUpper
  | [], _, _ => by
    refine ⟨[], ?_, rfl⟩
    match rest, hrest with
    | [], _ => rfl
    | [_], _ => rfl
  | [_], heven, _ => absurd heven (by simp)
  | c :: d :: digits, heven, h => by
    simp only [List.forall_mem_cons] at h
    obtain ⟨hc, hd, hdigits⟩ := h
    obtain ⟨m, hm⟩ := Option.isSome_iff_exists.1 (isSome_value?_iff.2 hc)
    obtain ⟨n, hn⟩ := Option.isSome_iff_exists.1 (isSome_value?_iff.2 hd)
    obtain ⟨hm16, hhigh, -⟩ := digit_value? hm
    obtain ⟨hn16, hlow, -⟩ := digit_value? hn
    have heven' : digits.length % 2 = 0 := by
      simp only [List.length_cons] at heven
      omega
    obtain ⟨bytes, hbytes, hencode⟩ := decodePairs_append hrest heven' hdigits
    refine ⟨UInt8.ofNat (16 * m + n) :: bytes, ?_, ?_⟩
    · show decodePairs (c :: d :: (digits ++ rest)) = _
      rw [decodePairs, hm, hn, hbytes]
      rfl
    · have hbyte : (UInt8.ofNat (16 * m + n)).toNat = 16 * m + n :=
        UInt8.toNat_ofNat_of_lt' (by simp only [UInt8.size]; omega)
      rw [encode_cons, hbyte, show (16 * m + n) / 16 = m by omega,
        show (16 * m + n) % 16 = n by omega, hhigh, hlow, hencode]
      rfl

/-- What is read as bytes starts with pairs of digits, behind which no pair is left. -/
theorem exists_digits : ∀ {s : List Char} {bytes : List UInt8}, decodePairs s = some bytes →
    ∃ digits rest, s = digits ++ rest ∧ rest.length ≤ 1 ∧ digits.length % 2 = 0 ∧
      ∀ c ∈ digits, IsDigit c
  | [], _, _ => ⟨[], [], rfl, by decide, rfl, nofun⟩
  | [c], _, _ => ⟨[], [c], rfl, Nat.le_refl 1, rfl, nofun⟩
  | c :: d :: s, bytes, h => by
    obtain ⟨m, hm, h⟩ := Option.bind_eq_some_iff.1 h
    obtain ⟨n, hn, h⟩ := Option.bind_eq_some_iff.1 h
    obtain ⟨bytes, hbytes, -⟩ := Option.bind_eq_some_iff.1 h
    obtain ⟨digits, rest, rfl, hrest, heven, hdigits⟩ := exists_digits hbytes
    have hc : IsDigit c := isSome_value?_iff.1 (hm ▸ rfl)
    have hd : IsDigit d := isSome_value?_iff.1 (hn ▸ rfl)
    refine ⟨c :: d :: digits, rest, rfl, hrest, ?_, ?_⟩
    · simp only [List.length_cons]
      omega
    · exact List.forall_mem_cons.2 ⟨hc, List.forall_mem_cons.2 ⟨hd, hdigits⟩⟩

/-- A text that is read as digits denotes the bytes of these digits. -/
theorem ReadsAs.exists_bytes {s digits : List Char} (h : ReadsAs s digits) :
    ∃ bytes, decode? s = some bytes ∧ encode bytes = digits.map Char.toUpper := by
  obtain ⟨rest, rfl, hrest, hsize⟩ :
      ∃ rest, s = digits ++ rest ∧ rest.length ≤ 1 ∧ utf8Size rest % 2 = 0 := by
    rcases h.text with rfl | ⟨c, hc, rfl⟩
    · exact ⟨[], (List.append_nil s).symm, by decide, rfl⟩
    · exact ⟨[c], rfl, Nat.le_refl 1, hc⟩
  have heven := h.even
  obtain ⟨bytes, hbytes, hencode⟩ := decodePairs_append hrest heven h.isDigit
  refine ⟨bytes, ?_, hencode⟩
  unfold decode?
  rw [utf8Size_append, utf8Size_of_isDigit h.isDigit, if_pos (by omega), hbytes]

/-- The bytes that a text denotes are those of its digits. -/
theorem decode?_eq_some_iff {s : List Char} {bytes : List UInt8} :
    decode? s = some bytes ↔
      ∃ digits, ReadsAs s digits ∧ encode bytes = digits.map Char.toUpper := by
  constructor
  · intro h
    unfold decode? at h
    split at h
    · next hsize =>
      obtain ⟨digits, rest, rfl, hrest, heven, hdigits⟩ := exists_digits h
      obtain ⟨bytes', hbytes', hencode⟩ := decodePairs_append hrest heven hdigits
      obtain rfl : bytes = bytes' := Option.some.inj (h.symm.trans hbytes')
      rw [utf8Size_append, utf8Size_of_isDigit hdigits] at hsize
      refine ⟨digits, ⟨heven, hdigits, ?_⟩, hencode⟩
      match rest, hrest with
      | [], _ => exact .inl (List.append_nil digits)
      | [c], _ =>
        have hc : utf8Size [c] = c.utf8Size := Nat.add_zero _
        exact .inr ⟨c, by omega, rfl⟩
    · cases h
  · rintro ⟨digits, hreads, hencode⟩
    obtain ⟨bytes', hbytes', hencode'⟩ := hreads.exists_bytes
    rw [hbytes', encode_inj (hencode'.trans hencode.symm)]

end XPathData.Text.Hex
