import XPathData.Text.Base64
import XPathData.Text.Space

/-! # Bytes in base 64 read back

  The text of a run of bytes is read as these bytes, and no other text is: what can be read at all
  is the text of the bytes that it is read as.

  * `Text.Base64.decode?_encode` — a text of bytes is read as these bytes
  * `Text.Base64.encode_of_decode?` — a text that is read as some bytes is their text
-/

namespace XPathData.Text.Base64

/-! ### Characters -/

theorem value?_character {n : Nat} (h : n < 64) : value? (character n) = some n := by
  have hall : ∀ i : Fin 64, value? (character i) = some i.val := by decide
  exact hall ⟨n, h⟩

/-- A character has the value that it is written for. -/
theorem of_value? {c : Char} {n : Nat} (h : value? c = some n) : n < 64 ∧ character n = c := by
  have hle (d : Char) (hd : d ≤ c) : d.toNat ≤ c.toNat := hd
  have hge (d : Char) (hd : c ≤ d) : c.toNat ≤ d.toNat := hd
  -- The value says how far the character stands behind the first one of its kind.
  have hback (first : Char) (k : Nat) (hk : first.toNat + k = c.toNat) :
      Char.ofNat (first.toNat + k) = c := by
    rw [hk, Char.ofNat_toNat]
  unfold value? at h
  unfold character
  split at h
  · next hc =>
    have := hle 'A' hc.1
    have := hge 'Z' hc.2
    simp only [Char.reduceToNat, Option.some.injEq] at *
    rw [if_pos (by omega)]
    exact ⟨by omega, hback 'A' n (by simp only [Char.reduceToNat]; omega)⟩
  · split at h
    · next hc =>
      have := hle 'a' hc.1
      have := hge 'z' hc.2
      simp only [Char.reduceToNat, Option.some.injEq] at *
      rw [if_neg (by omega), if_pos (by omega)]
      exact ⟨by omega, hback 'a' (n - 26) (by simp only [Char.reduceToNat]; omega)⟩
    · split at h
      · next hc =>
        have := hle '0' hc.1
        have := hge '9' hc.2
        simp only [Char.reduceToNat, Option.some.injEq] at *
        rw [if_neg (by omega), if_neg (by omega), if_pos (by omega)]
        exact ⟨by omega, hback '0' (n - 52) (by simp only [Char.reduceToNat]; omega)⟩
      · split at h
        · next hc =>
          cases h
          exact ⟨by decide, hc.symm⟩
        · split at h
          · next hc =>
            cases h
            exact ⟨by decide, hc.symm⟩
          · cases h

theorem isAsciiSpace_of_value? {c : Char} {n : Nat} (h : value? c = some n) :
    isAsciiSpace c = false := by
  cases hspace : isAsciiSpace c with
  | false => rfl
  | true =>
    have hblank : (((c = ' ' ∨ c = '\t') ∨ c = '\n') ∨ c = '\r') ∨ c = '\x0c' := by
      simpa [isAsciiSpace, isXmlSpace, or_assoc] using hspace
    -- None of the five has a value.
    rcases hblank with (((rfl | rfl) | rfl) | rfl) | rfl <;> cases h

/-! ### Four characters -/

section

variable {a b c d : Char} {x y z w : Nat} {rest : List Char}

/-- Four characters without a pad make three bytes. -/
theorem decode?_four (ha : value? a = some x) (hb : value? b = some y) (hc : value? c = some z)
    (hd : value? d = some w) :
    decode? (a :: b :: c :: d :: rest) = (decode? rest).map fun bytes =>
      UInt8.ofNat (x * 4 + y / 16) :: UInt8.ofNat (y % 16 * 16 + z / 4) ::
        UInt8.ofNat (z % 4 * 64 + w) :: bytes := by
  rw [decode?, ha, hb, hc, hd]

/-- One pad takes the place of a byte. -/
theorem decode?_three (ha : value? a = some x) (hb : value? b = some y) (hc : value? c = some z)
    (hz : z % 4 = 0) :
    decode? [a, b, c, '='] =
      some [UInt8.ofNat (x * 4 + y / 16), UInt8.ofNat (y % 16 * 16 + z / 4)] := by
  have hpad : value? '=' = none := rfl
  have hne : c ≠ '=' := by
    rintro rfl
    cases hpad.symm.trans hc
  rw [decode?, hpad]
  simp only [List.isEmpty_nil, if_true]
  rw [decodePadded?, ha, hb, hc]
  · simp only [Option.bind_eq_bind, Option.bind_some, hz, if_true]
    rfl
  · exact hne

/-- Two pads take the place of two bytes. -/
theorem decode?_two (ha : value? a = some x) (hb : value? b = some y) (hy : y % 16 = 0) :
    decode? [a, b, '=', '='] = some [UInt8.ofNat (x * 4 + y / 16)] := by
  have hpad : value? '=' = none := rfl
  rw [decode?, hpad]
  simp only [List.isEmpty_nil, if_true]
  rw [decodePadded?, ha, hb]
  simp only [Option.bind_eq_bind, Option.bind_some, hy, if_true]
  rfl

end

/-! ### Runs of bytes -/

/-- The text of a run of bytes is read as these bytes. -/
theorem decode?_encode (bytes : List UInt8) : decode? (encode bytes) = some bytes := by
  induction bytes using encode.induct with
  | case1 a b c rest ih =>
    have := a.toNat_lt
    have := b.toNat_lt
    have := c.toNat_lt
    -- Every byte is put together from what two neighbouring characters hold of it.
    have ha : a.toNat / 4 * 4 + (a.toNat % 4 * 16 + b.toNat / 16) / 16 = a.toNat := by omega
    have hb : (a.toNat % 4 * 16 + b.toNat / 16) % 16 * 16 +
        (b.toNat % 16 * 4 + c.toNat / 64) / 4 = b.toNat := by omega
    have hc : (b.toNat % 16 * 4 + c.toNat / 64) % 4 * 64 + c.toNat % 64 = c.toNat := by omega
    rw [encode, decode?_four (value?_character (by omega)) (value?_character (by omega))
      (value?_character (by omega)) (value?_character (by omega)), ih, Option.map_some, ha, hb, hc]
    simp only [UInt8.ofNat_toNat]
  | case2 a b =>
    have := a.toNat_lt
    have := b.toNat_lt
    have ha : a.toNat / 4 * 4 + (a.toNat % 4 * 16 + b.toNat / 16) / 16 = a.toNat := by omega
    have hb : (a.toNat % 4 * 16 + b.toNat / 16) % 16 * 16 + b.toNat % 16 * 4 / 4 = b.toNat := by
      omega
    rw [encode, decode?_three (value?_character (by omega)) (value?_character (by omega))
      (value?_character (by omega)) (by omega), ha, hb]
    simp only [UInt8.ofNat_toNat]
  | case3 a =>
    have := a.toNat_lt
    have ha : a.toNat / 4 * 4 + a.toNat % 4 * 16 / 16 = a.toNat := by omega
    rw [encode, decode?_two (value?_character (by omega)) (value?_character (by omega))
      (by omega), ha]
    simp only [UInt8.ofNat_toNat]
  | case4 => rfl

/-- A text of bytes has no blanks. -/
theorem isAsciiSpace_of_mem_encode {bytes : List UInt8} :
    ∀ c ∈ encode bytes, isAsciiSpace c = false := by
  have hcharacter {n : Nat} (hn : n < 64) : isAsciiSpace (character n) = false :=
    isAsciiSpace_of_value? (value?_character hn)
  have hpad : isAsciiSpace '=' = false := rfl
  induction bytes using encode.induct with
  | case1 a b c rest ih =>
    have := a.toNat_lt
    have := b.toNat_lt
    have := c.toNat_lt
    simp only [encode, List.forall_mem_cons]
    exact ⟨hcharacter (by omega), hcharacter (by omega), hcharacter (by omega),
      hcharacter (by omega), ih⟩
  | case2 a b =>
    have := a.toNat_lt
    have := b.toNat_lt
    simp only [encode, List.forall_mem_cons]
    exact ⟨hcharacter (by omega), hcharacter (by omega), hcharacter (by omega), hpad, by simp⟩
  | case3 a =>
    have := a.toNat_lt
    simp only [encode, List.forall_mem_cons]
    exact ⟨hcharacter (by omega), hcharacter (by omega), hpad, hpad, by simp⟩
  | case4 => simp [encode]

/-- The bound of a byte as a numeral. -/
theorem toNat_ofNat {n : Nat} (h : n < 256) : (UInt8.ofNat n).toNat = n :=
  UInt8.toNat_ofNat_of_lt' h

/-- With pads at its end a text is that of one or two bytes. -/
theorem encode_of_decodePadded? {s : List Char} {bytes : List UInt8}
    (h : decodePadded? s = some bytes) : encode bytes = s := by
  unfold decodePadded? at h
  split at h
  · next a b =>
    obtain ⟨x, ha, hrest⟩ := Option.bind_eq_some_iff.1 h
    obtain ⟨y, hb, hlast⟩ := Option.bind_eq_some_iff.1 hrest
    obtain ⟨hx, rfl⟩ := of_value? ha
    obtain ⟨hy, rfl⟩ := of_value? hb
    split at hlast
    · cases hlast
      have hfirst : (x * 4 + y / 16) / 4 = x := by omega
      have hsecond : (x * 4 + y / 16) % 4 * 16 = y := by omega
      rw [encode, toNat_ofNat (by omega), hfirst, hsecond]
    · cases hlast
  · next a b c _ =>
    obtain ⟨x, ha, hrest⟩ := Option.bind_eq_some_iff.1 h
    obtain ⟨y, hb, hrest'⟩ := Option.bind_eq_some_iff.1 hrest
    obtain ⟨z, hc, hlast⟩ := Option.bind_eq_some_iff.1 hrest'
    obtain ⟨hx, rfl⟩ := of_value? ha
    obtain ⟨hy, rfl⟩ := of_value? hb
    obtain ⟨hz, rfl⟩ := of_value? hc
    split at hlast
    · cases hlast
      have hfirst : (x * 4 + y / 16) / 4 = x := by omega
      have hsecond : (x * 4 + y / 16) % 4 * 16 + (y % 16 * 16 + z / 4) / 16 = y := by omega
      have hthird : (y % 16 * 16 + z / 4) % 16 * 4 = z := by omega
      rw [encode, toNat_ofNat (by omega), toNat_ofNat (by omega), hfirst, hsecond, hthird]
    · cases hlast
  · cases h

/-- A text that is read as some bytes is their text. -/
theorem encode_of_decode? {s : List Char} {bytes : List UInt8} (h : decode? s = some bytes) :
    encode bytes = s := by
  induction s using decode?.induct generalizing bytes with
  | case1 =>
    cases h
    rfl
  | case2 a b c d rest x y z w hd hc hb ha ih =>
    rw [decode?_four ha hb hc hd] at h
    obtain ⟨later, hlater, rfl⟩ := Option.map_eq_some_iff.1 h
    obtain ⟨hx, rfl⟩ := of_value? ha
    obtain ⟨hy, rfl⟩ := of_value? hb
    obtain ⟨hz, rfl⟩ := of_value? hc
    obtain ⟨hw, rfl⟩ := of_value? hd
    -- Every value is put together from what neighbouring bytes hold of it.
    have hfirst : (x * 4 + y / 16) / 4 = x := by omega
    have hsecond : (x * 4 + y / 16) % 4 * 16 + (y % 16 * 16 + z / 4) / 16 = y := by omega
    have hthird : (y % 16 * 16 + z / 4) % 16 * 4 + (z % 4 * 64 + w) / 64 = z := by omega
    have hfourth : (z % 4 * 64 + w) % 64 = w := by omega
    rw [encode, ih hlater, toNat_ofNat (by omega), toNat_ofNat (by omega), toNat_ofNat (by omega),
      hfirst, hsecond, hthird, hfourth]
  | case3 a b c d rest hempty hnone =>
    have hrest : rest = [] := List.isEmpty_iff.1 hempty
    subst hrest
    rw [decode?] at h
    split at h
    · next x y z w ha hb hc hd => exact (hnone x y z w ha hb hc hd).elim
    · exact encode_of_decodePadded? h
  | case4 a b c d rest hne hnone =>
    rw [decode?] at h
    split at h
    · next x y z w ha hb hc hd => exact (hnone x y z w ha hb hc hd).elim
    · rw [if_neg hne] at h
      cases h
  | case5 s hnil hfour =>
    rw [decode?] at h
    · cases h
    · exact hnil
    · exact hfour

/-- A text is read as some bytes exactly if it is their text. -/
theorem decode?_eq_some_iff {s : List Char} {bytes : List UInt8} :
    decode? s = some bytes ↔ s = encode bytes := by
  constructor
  · intro h
    exact (encode_of_decode? h).symm
  · rintro rfl
    exact decode?_encode bytes

theorem encode_inj {bytes bytes' : List UInt8} (h : encode bytes = encode bytes') :
    bytes = bytes' := by
  have hdecode := decode?_encode bytes
  rw [h, decode?_encode] at hdecode
  exact (Option.some.inj hdecode).symm

end XPathData.Text.Base64
