import XPathData.Proofs.Atomic.WellFormed

/-! # Values cast back from their text

  Every value is cast to its canonical text. For truth values, exact numbers, bytes, URIs and
  strings the text tells all of the value: white space in it is normalized as the type has it, its
  digits lie within the bounds of the type, and so the cast back to the type gives the value again.
  Only decimal places that are zero at the end are lost, and with them nothing of the number.

  * `Atomic.integerOf_writeInt` — reading the text of an integer
  * `Atomic.castDecimal_text` — reading the text of a decimal number
  * `Atomic.castHex_of_capital`, `Atomic.castBase64_of_decode?` — reading bytes
  * `Atomic.text_read_back` — casts to `string` and back
-/

namespace XPathData

open Text

/-- The types of truth values, exact numbers, bytes, URIs and strings. -/
def AtomicType.isExact : AtomicType → Bool
  | boolean | decimal | integer _ | hexBinary | base64Binary | anyURI | string _ => true
  | _ => false

namespace Atomic

/-- Text without white space is a literal as it is. -/
theorem literalOf_of_solid {s : String} (h : ∀ c ∈ s.toList, isUnicodeSpace c = false) :
    literalOf s = s.toList :=
  trim_eq_self fun c hc => isXmlSpace_le (h c hc)

/-! ### Integers -/

theorem takeSign_writeInt (n : Int) :
    Decimal.takeSign (writeInt n) = (decide (n < 0), writeNat n.natAbs) := by
  -- An integer is a numeral without decimal places.
  have hwhole : Decimal.pointed (writeNat n.natAbs) [] = writeNat n.natAbs := List.append_nil _
  have hsign : Decimal.takeSign ((if decide (n < 0) then ['-'] else []) ++
      Decimal.pointed (writeNat n.natAbs) []) =
        (decide (n < 0), Decimal.pointed (writeNat n.natAbs) []) :=
    Decimal.takeSign_pointed (writeNat_all_isDigit n.natAbs) (writeNat_ne_nil n.natAbs) _
  have htext : writeInt n = (if decide (n < 0) then ['-'] else []) ++ writeNat n.natAbs := by
    unfold writeInt
    by_cases hn : n < 0 <;> simp [hn]
  rw [hwhole] at hsign
  rw [htext, hsign]

theorem isUnicodeSpace_of_mem_writeInt {n : Int} {c : Char} (hc : c ∈ writeInt n) :
    isUnicodeSpace c = false := by
  have hdigits := List.all_eq_true.1 (writeNat_all_isDigit n.natAbs)
  unfold writeInt at hc
  split at hc
  · rcases List.mem_cons.1 hc with rfl | hc
    · rfl
    · exact isUnicodeSpace_of_isDigit (hdigits c hc)
  · exact isUnicodeSpace_of_isDigit (hdigits c hc)

theorem isIntegerForm_writeInt (n : Int) : isIntegerForm (writeInt n) = true := by
  have hne : (writeNat n.natAbs).isEmpty = false :=
    List.isEmpty_eq_false_iff.2 (writeNat_ne_nil n.natAbs)
  unfold isIntegerForm
  simp only [takeSign_writeInt, hne, writeNat_all_isDigit, Bool.not_false, Bool.and_self]

theorem readInteger_writeInt (n : Int) : readInteger (writeInt n) = n := by
  unfold readInteger
  simp only [takeSign_writeInt, readDigits_writeNat]
  by_cases hn : n < 0
  · simp only [hn, decide_true, if_true]
    omega
  · simp only [hn, decide_false, Bool.false_eq_true, if_false]
    omega

/-- The text of an integer of 128 bits is read as the integer, whatever the target. -/
theorem integerOf_writeInt {n : Int} (hmin : wideMin ≤ n) (hmax : n ≤ wideMax)
    (target : AtomicType) : integerOf (str (String.ofList (writeInt n))) target = .ok n := by
  have hliteral : literalOf (String.ofList (writeInt n)) = writeInt n := by
    have hsolid : ∀ c ∈ (String.ofList (writeInt n)).toList, isUnicodeSpace c = false := by
      rw [String.toList_ofList]
      exact fun c hc => isUnicodeSpace_of_mem_writeInt hc
    rw [literalOf_of_solid hsolid, String.toList_ofList]
  simp only [integerOf, hliteral, isIntegerForm_writeInt, readInteger_writeInt, if_true, hmin, hmax,
    and_self]

/-! ### Decimal numbers -/

theorem isUnicodeSpace_of_mem_text {d : Decimal} {c : Char} (hc : c ∈ d.text.toList) :
    isUnicodeSpace c = false := by
  obtain ⟨whole, places, hwhole, hplaces, -, -, -, htext⟩ := d.exists_text
  have hdigit {s : List Char} (hs : s.all isDigit = true) (hmem : c ∈ s) :
      isUnicodeSpace c = false :=
    isUnicodeSpace_of_isDigit (List.all_eq_true.1 hs c hmem)
  rw [htext] at hc
  rcases List.mem_append.1 hc with hc | hc
  · split at hc
    · rw [List.mem_singleton.1 hc]
      rfl
    · cases hc
  · rcases List.mem_append.1 hc with hc | hc
    · exact hdigit hwhole hc
    · split at hc
      · cases hc
      · rcases List.mem_cons.1 hc with rfl | hc
        · rfl
        · exact hdigit hplaces hc

/-- The text of a decimal number is read as its normal form. -/
theorem castDecimal_text (d : Decimal) : castDecimal (str d.text) = .ok d.normalize := by
  have hliteral : literalOf d.text = d.text.toList :=
    literalOf_of_solid fun c hc => isUnicodeSpace_of_mem_text hc
  have hread := d.read?_text
  have hform : Decimal.isLexical d.text.toList = true := by
    by_contra hno
    rw [Decimal.read?, if_neg hno] at hread
    cases hread
  simp only [castDecimal, hliteral, hform, hread, if_true, orThrow]

/-! ### Bytes -/

/-- A text without white space is not changed before it is decoded. -/
theorem filter_of_solid {s : List Char} (h : ∀ c ∈ s, isAsciiSpace c = false) :
    (s.filter fun c => !isAsciiSpace c) = s :=
  List.filter_eq_self.2 fun c hc => by rw [h c hc]; rfl

/-- Capital digits, two for each byte, are read as bytes with these digits. -/
theorem castHex_of_capital {s : String} (hlength : s.toList.length % 2 = 0)
    (hs : ∀ c ∈ s.toList, Hex.IsCapital c) (ctx : ValueContext) :
    (str s).convert .hexBinary ctx = .ok (hexBinary s) := by
  obtain ⟨bytes, hbytes⟩ := Hex.exists_encode hlength hs
  have hcompact : (s.toList.filter fun c => !isAsciiSpace c) = s.toList :=
    filter_of_solid fun c hc => Hex.isAsciiSpace_of_isCapital (hs c hc)
  have hdecode : Hex.decode? s.toList = some bytes := by rw [← hbytes, Hex.decode?_encode]
  have hof : ofBytesHex bytes = hexBinary s := by rw [ofBytesHex, hbytes, String.ofList_toList]
  simp only [convert, bytesOf, hcompact, if_true, hdecode, orThrow, Except.map, hof]

/-- A text in base 64 is read as bytes that have this text. -/
theorem castBase64_of_decode? {s : String} (hs : (Base64.decode? s.toList).isSome = true)
    (ctx : ValueContext) : (str s).convert .base64Binary ctx = .ok (base64Binary s) := by
  obtain ⟨bytes, hdecode⟩ := Option.isSome_iff_exists.1 hs
  have hbytes := Base64.encode_of_decode? hdecode
  have hcompact : (s.toList.filter fun c => !isAsciiSpace c) = s.toList :=
    filter_of_solid fun c hc => Base64.isAsciiSpace_of_mem_encode c (hbytes ▸ hc)
  have hof : ofBytesBase64 bytes = base64Binary s := by
    rw [ofBytesBase64, hbytes, String.ofList_toList]
  simp only [convert, bytesOf, hcompact, reduceCtorEq, if_false, hdecode, orThrow, Except.map, hof]

/-! ### Casts -/

variable {a : Atomic}

/-- Every value can be cast to a string, which is its canonical text. -/
theorem cast_string (a : Atomic) (ctx : ValueContext) :
    a.cast (.string .string) ctx = .ok (str a.text) := by
  by_cases htype : a.type = .string .string
  · cases a with
    | string k s =>
      cases htype
      exact cast_self rfl rfl
    | _ => cases htype
  · rw [cast_of_ne rfl htype]
    exact castString_of_has (k := .string) trivial

theorem cast_str_string {k : StringKind} {s : String} (h : k.Has s.toList) (ctx : ValueContext) :
    (str s).cast (.string k) ctx = .ok (string k s) := by
  by_cases hk : k = .string
  · subst hk
    exact cast_self rfl rfl
  · have htype : (str s).type ≠ .string k := fun h => hk (AtomicType.string.inj h).symm
    rw [cast_of_ne rfl htype]
    exact castString_of_has h

/-- Values of other types are read from a text. -/
theorem cast_str {target : AtomicType} {s : String} {ctx : ValueContext} {r : Except Error Atomic}
    (htarget : target.isAbstract = false) (hstring : target.isString = false)
    (h : (str s).convert target ctx = r) : (str s).cast target ctx = r := by
  have htype : (str s).type ≠ target := by
    rintro rfl
    cases hstring
  rw [cast_of_ne htarget htype, h]

/-- The text of a value whose type is exact, but not `decimal`, is cast to the value itself. -/
theorem cast_text (ha : a.WellFormed) (ht : a.type.isExact = true) (hd : a.type ≠ .decimal)
    (ctx : ValueContext) : (str a.text).cast a.type ctx = .ok a := by
  cases a with
  | string k s => exact cast_str_string ha ctx
  | boolean b => cases b <;> rfl
  | integer k n =>
    obtain ⟨hlow, hhigh⟩ := k.bounds
    obtain ⟨m, hm, hcast⟩ := exists_ofInteger ha
    -- All words lie within the 128 bits that a literal may have.
    have hn := n.low_le
    have hn' := n.le_high
    have hread : integerOf (str (integer k n).text) (.integer k) = .ok n.val :=
      integerOf_writeInt (by unfold wideMin; omega) (by unfold wideMax; omega) _
    have hconvert : (str (integer k n).text).convert (.integer k) ctx = ofInteger n.val k := by
      simp only [convert, hread, bind, Except.bind]
    have hof : ofInteger n.val k = .ok (integer k n) := by rw [hcast, Bounded.ext_val hm]
    exact cast_str rfl rfl (hconvert.trans hof)
  | hexBinary s => exact cast_str rfl rfl (castHex_of_capital ha.1 ha.2 ctx)
  | base64Binary s => exact cast_str rfl rfl (castBase64_of_decode? ha ctx)
  | anyURI s =>
    have hs : IsCollapsed s.toList := ha
    have htext : collapseSpace s.toList = s.toList := hs.collapseSpace_eq
    have hconvert : (str s).convert .anyURI ctx = .ok (anyURI s) := by
      show Except.ok (anyURI (String.ofList (collapseSpace s.toList))) = _
      rw [htext, String.ofList_toList]
    exact cast_str rfl rfl hconvert
  | decimal d => exact absurd rfl hd
  | _ => cases ht

theorem same_self (ht : a.type.isExact = true) : a.same a = true := by
  cases a with
  | decimal d => exact Decimal.same_iff.2 rfl
  | string | boolean | integer | hexBinary | base64Binary | anyURI => exact beq_self_eq_true _
  | _ => cases ht

/-- A well-formed value of one of these types, such as casts make from strings, is cast to `string`
    and back to its type. What comes back is the value; of a decimal number it is the normal form,
    which is the same number. -/
theorem text_read_back (ha : a.WellFormed) (ht : a.type.isExact = true) (ctx ctx' : ValueContext) :
    a.cast (.string .string) ctx = .ok (str a.text) ∧
      ∃ w, (str a.text).cast a.type ctx' = .ok w ∧ w.same a = true ∧
        (a.type ≠ .decimal → w = a) := by
  refine ⟨a.cast_string ctx, ?_⟩
  by_cases hd : a.type = .decimal
  · cases a with
    | decimal d =>
      have hconvert : (str d.text).convert .decimal ctx' = .ok (decimal d.normalize) := by
        show (castDecimal (str d.text)).map decimal = _
        rw [castDecimal_text]
        rfl
      exact ⟨decimal d.normalize, cast_str rfl rfl hconvert,
        Decimal.same_iff.2 d.value_normalize, fun hne => absurd hd hne⟩
    | _ => cases hd
  · exact ⟨a, cast_text ha ht hd ctx', same_self ht, fun _ => rfl⟩

/-- A number with all of its 28 decimal places, the last of them zero. -/
theorem text_read_back_places :
    let d : Decimal := ⟨-12345678901234567890123456780, 28, by decide, by decide⟩
    let a : Atomic := .decimal d
    a.WellFormed ∧ a.type.isExact = true ∧ a.text = "-1.234567890123456789012345678" ∧
      a.cast (.string .string) .standard = .ok (str a.text) ∧
      ∃ w, (str a.text).cast a.type .standard = .ok w ∧ w.same a = true := by
  intro d a
  obtain ⟨hcast, w, hback, hsame, -⟩ :=
    text_read_back (a := a) trivial rfl .standard .standard
  exact ⟨trivial, rfl, by decide +kernel, hcast, w, hback, hsame⟩

end Atomic

end XPathData
