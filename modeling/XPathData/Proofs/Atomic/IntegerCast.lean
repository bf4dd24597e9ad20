import Mathlib.Data.Rat.Floor
import XPathData.Proofs.Atomic.IntegerArithmetic
import XPathData.Proofs.Atomic.WellFormed
import XPathData.Proofs.Text.Digits

/-! # Casts to the integer types

  Texts, truth values, decimal numbers and integers denote integers, decimal numbers after their
  places are cut off. A cast to an integer type gives the integer that is denoted, if the type has
  it among its values and a value of the type can hold it, and fails otherwise. The integer is
  found in full before it is compared with the bounds, so that nothing wraps and nothing is cut
  down to a bound.

  * `Text.isNumeral_iff` — numerals, as they are read
  * `Decimal.whole_eq` — the whole part of a decimal number
  * `Atomic.integerOf_eq_ok_iff` — the integer that a value denotes
  * `Atomic.ofInteger_eq_ok_iff` — the values of a type
  * `Atomic.integer_cast_exact` — casts to all integer types
-/

namespace XPathData

/-! ### Numerals -/

namespace Text

/-- Digits of the integer, and perhaps a sign before them. -/
def IsSigned (s : List Char) (n : Int) : Prop :=
  ∃ sign digits, s = sign ++ digits ∧ digits ≠ [] ∧ (∀ c ∈ digits, isDigit c = true) ∧
    ((sign = [] ∨ sign = ['+']) ∧ n = readDigits digits ∨ sign = ['-'] ∧ n = -readDigits digits)

/-- A numeral of the integer with nothing but white space around it. -/
def IsNumeral (s : List Char) (n : Int) : Prop :=
  ∃ before numeral after, s = before ++ numeral ++ after ∧
    (∀ c ∈ before ++ after, isXmlSpace c = true) ∧ IsSigned numeral n

variable {s digits : List Char} {n : Int}

/-- A digit is not taken for a sign. -/
theorem takeSign_digits (hne : digits ≠ []) (h : ∀ c ∈ digits, isDigit c = true) :
    Decimal.takeSign digits = (false, digits) := by
  obtain ⟨c, rest, rfl⟩ := List.exists_cons_of_ne_nil hne
  have hc := h c List.mem_cons_self
  unfold Decimal.takeSign
  split
  · next heq => exact absurd (List.cons.inj heq).1 (ne_of_isDigit hc (by decide))
  · next heq => exact absurd (List.cons.inj heq).1 (ne_of_isDigit hc (by decide))
  · rfl

/-- What is taken for a sign stands before the rest of the text. -/
theorem exists_sign (s : List Char) :
    ∃ sign, s = sign ++ (Decimal.takeSign s).2 ∧
      ((sign = [] ∨ sign = ['+']) ∧ (Decimal.takeSign s).1 = false ∨
        sign = ['-'] ∧ (Decimal.takeSign s).1 = true) := by
  unfold Decimal.takeSign
  split
  · exact ⟨['-'], rfl, .inr ⟨rfl, rfl⟩⟩
  · exact ⟨['+'], rfl, .inl ⟨.inr rfl, rfl⟩⟩
  · exact ⟨[], rfl, .inl ⟨.inl rfl, rfl⟩⟩

/-- Signed digits are what is read as an integer. -/
theorem isSigned_iff :
    IsSigned s n ↔ Atomic.isIntegerForm s = true ∧ Atomic.readInteger s = n := by
  unfold Atomic.isIntegerForm Atomic.readInteger
  constructor
  · rintro ⟨sign, digits, rfl, hne, hdigits, hsign⟩
    have hform : (!digits.isEmpty && digits.all isDigit) = true := by
      simpa [List.isEmpty_iff] using ⟨hne, hdigits⟩
    rcases hsign with ⟨rfl | rfl, rfl⟩ | ⟨rfl, rfl⟩
    · rw [List.nil_append, takeSign_digits hne hdigits]
      exact ⟨hform, rfl⟩
    · exact ⟨hform, rfl⟩
    · exact ⟨hform, rfl⟩
  · rintro ⟨hform, rfl⟩
    obtain ⟨sign, hs, hsign⟩ := exists_sign s
    obtain ⟨hne, hdigits⟩ := Bool.and_eq_true_iff.1 hform
    refine ⟨sign, (Decimal.takeSign s).2, hs, ?_, List.all_eq_true.1 hdigits, ?_⟩
    · simpa [List.isEmpty_iff] using hne
    · rcases hsign with ⟨hplus, hpos⟩ | ⟨hminus, hneg⟩
      · exact .inl ⟨hplus, by simp [hpos]⟩
      · exact .inr ⟨hminus, by simp [hneg]⟩

theorem IsSigned.not_isXmlSpace (h : IsSigned s n) : ∀ c ∈ s, isXmlSpace c = false := by
  obtain ⟨sign, digits, rfl, -, hdigits, hsign⟩ := h
  intro c hc
  rcases List.mem_append.1 hc with hc | hc
  · rcases hsign with ⟨rfl | rfl, -⟩ | ⟨rfl, -⟩
    · cases hc
    · rw [List.mem_singleton.1 hc]
      rfl
    · rw [List.mem_singleton.1 hc]
      rfl
  · exact isXmlSpace_le (isUnicodeSpace_of_isDigit (hdigits c hc))

/-- A numeral is what is read as an integer when it is trimmed. -/
theorem isNumeral_iff : IsNumeral s n ↔
    Atomic.isIntegerForm (trimXml s) = true ∧ Atomic.readInteger (trimXml s) = n := by
  rw [← isSigned_iff]
  constructor
  · rintro ⟨before, numeral, after, rfl, hblank, hsigned⟩
    rwa [trimXml, trim_append hblank hsigned.not_isXmlSpace]
  · intro hsigned
    obtain ⟨before, after, hs, hblank⟩ := exists_trim isXmlSpace s
    exact ⟨before, trimXml s, after, hs, hblank, hsigned⟩

end Text

/-! ### Whole parts -/

/-- The integer next to a number in the direction of zero. -/
def towardZero (x : ℚ) : Int := if 0 ≤ x then ⌊x⌋ else ⌈x⌉

/-- The whole part of a decimal number is the number without its decimal places. -/
theorem Decimal.whole_eq (d : Decimal) : d.whole = towardZero d.value := by
  have hpower : (0 : ℚ) < (Nat.pow 10 d.scale : Nat) := by
    exact_mod_cast Nat.pow_pos (by decide : 0 < 10)
  have hvalue : d.value = (d.coefficient : ℚ) / (Nat.pow 10 d.scale : Nat) := by
    simp [value]
  unfold towardZero
  split
  · next hpos =>
    rw [hvalue, div_nonneg_iff] at hpos
    have hcoefficient : 0 ≤ d.coefficient := by
      rcases hpos with ⟨hpos, -⟩ | ⟨-, hpower'⟩
      · exact_mod_cast hpos
      · exact absurd hpower (not_lt.2 hpower')
    rw [hvalue, Rat.floor_intCast_div_natCast, whole, Int.tdiv_eq_ediv_of_nonneg hcoefficient]
  · next hneg =>
    have hcoefficient : 0 ≤ -d.coefficient := by
      by_contra hpos
      apply hneg
      rw [hvalue]
      exact div_nonneg (by exact_mod_cast (show 0 ≤ d.coefficient by omega)) hpower.le
    -- Cutting off decimal places and taking the opposite may be exchanged.
    rw [hvalue, Rat.ceil_intCast_div_natCast, ← Int.tdiv_eq_ediv_of_nonneg hcoefficient,
      Int.neg_tdiv, Int.neg_neg, whole]

/-! ### What a type has among its values -/

/-- The integers among the values of a type, as the schema has them. -/
def IntegerKind.HasValue (k : IntegerKind) (n : Int) : Prop :=
  match k with
  | integer => True
  | nonPositiveInteger => n ≤ 0
  | negativeInteger => n ≤ -1
  | long => -2 ^ 63 ≤ n ∧ n ≤ 2 ^ 63 - 1
  | int => -2 ^ 31 ≤ n ∧ n ≤ 2 ^ 31 - 1
  | short => -2 ^ 15 ≤ n ∧ n ≤ 2 ^ 15 - 1
  | byte => -2 ^ 7 ≤ n ∧ n ≤ 2 ^ 7 - 1
  | nonNegativeInteger => 0 ≤ n
  | unsignedLong => 0 ≤ n ∧ n ≤ 2 ^ 64 - 1
  | unsignedInt => 0 ≤ n ∧ n ≤ 2 ^ 32 - 1
  | unsignedShort => 0 ≤ n ∧ n ≤ 2 ^ 16 - 1
  | unsignedByte => 0 ≤ n ∧ n ≤ 2 ^ 8 - 1
  | positiveInteger => 1 ≤ n

/-- Of what a value of the type can hold, the sign decides. -/
theorem IntegerKind.hasValue_iff {k : IntegerKind} (w : k.Word) :
    k.HasValue w.val ↔ k.admits w.val = true := by
  have hlow := w.low_le
  have hhigh := w.le_high
  cases k <;> simp [HasValue, admits, low, high] at * <;> omega

namespace Atomic

variable {a b : Atomic} {k : IntegerKind} {n : Int} {target : AtomicType} {e : Error}

/-- The cast fails because of the value: it has not the form of an integer, or is not in range. -/
def IsRangeError (e : Error) : Prop :=
  e.code = ErrorCode.invalidValue.name ∨ e.code = ErrorCode.integerTooLarge.name

theorem ofInteger_eq_ok_iff :
    ofInteger n k = .ok b ↔ ∃ w : k.Word, w.val = n ∧ k.HasValue n ∧ b = integer k w := by
  constructor
  · intro h
    unfold ofInteger at h
    dsimp only at h
    split at h
    · next hadmits =>
      cases hword : (Bounded.ofInt? n : Option k.Word) with
      | none =>
        rw [hword] at h
        cases h
      | some w =>
        rw [hword] at h
        have hw := Bounded.ofInt?_eq_some_iff.1 hword
        subst hw
        exact ⟨w, rfl, (IntegerKind.hasValue_iff w).2 hadmits, (Except.ok.inj h).symm⟩
    · cases h
  · rintro ⟨w, rfl, hvalue, rfl⟩
    have hword : (Bounded.ofInt? w.val : Option k.Word) = some w :=
      Bounded.ofInt?_eq_some_iff.2 rfl
    unfold ofInteger
    dsimp only
    rw [if_pos ((IntegerKind.hasValue_iff w).1 hvalue), hword]
    rfl

theorem isRangeError_ofInteger (h : ofInteger n k = .error e) : IsRangeError e := by
  have hfailure (m : String) :
      IsRangeError (.ofCode (if k = .integer then .integerTooLarge else .invalidValue) m) := by
    split
    · exact .inr rfl
    · exact .inl rfl
  unfold ofInteger at h
  dsimp only at h
  split at h
  · cases hword : (Bounded.ofInt? n : Option k.Word) with
    | none =>
      rw [hword] at h
      cases h
      exact hfailure _
    | some w =>
      rw [hword] at h
      cases h
  · cases h
    exact hfailure _

/-! ### What a value denotes -/

/-- The integer that a value denotes; decimal places are cut off. -/
inductive Denotes : Atomic → Int → Prop
  | untyped {s : String} {n : Int} (h : Text.IsNumeral s.toList n) : Denotes (untyped s) n
  | string (k : StringKind) {s : String} {n : Int} (h : Text.IsNumeral s.toList n) :
    Denotes (string k s) n
  | boolean (b : Bool) : Denotes (boolean b) (if b then 1 else 0)
  | decimal (d : Decimal) : Denotes (decimal d) (towardZero d.value)
  | integer (k : IntegerKind) (w : k.Word) : Denotes (integer k w) w.val

/-- Texts, truth values, decimal numbers and integers, which may denote integers. -/
def mayDenote : Atomic → Bool
  | untyped _ | string .. | boolean _ | decimal _ | integer .. => true
  | _ => false

theorem denotes_text_iff {s : String} (hs : a.source? = some s) :
    a.Denotes n ↔ isIntegerForm (literalOf s) = true ∧ readInteger (literalOf s) = n := by
  have hnumeral : Text.IsNumeral s.toList n ↔
      isIntegerForm (literalOf s) = true ∧ readInteger (literalOf s) = n := Text.isNumeral_iff
  rw [← hnumeral]
  cases a with
  | untyped s =>
    cases hs
    exact ⟨fun h => by cases h; assumption, .untyped⟩
  | string k s =>
    cases hs
    exact ⟨fun h => by cases h; assumption, .string k⟩
  | _ => cases hs

theorem denotes_boolean_iff {x : Bool} : (boolean x).Denotes n ↔ ofBool x = n := by
  constructor
  · rintro ⟨⟩
    rfl
  · rintro rfl
    exact .boolean x

theorem denotes_decimal_iff {d : Decimal} : (decimal d).Denotes n ↔ d.whole = n := by
  rw [d.whole_eq]
  constructor
  · rintro ⟨⟩
    rfl
  · rintro rfl
    exact .decimal d

theorem denotes_integer_iff {w : k.Word} : (integer k w).Denotes n ↔ w.val = n := by
  constructor
  · rintro ⟨⟩
    rfl
  · rintro rfl
    exact .integer k w

/-! ### What is found for a value -/

/-- The integer is one of 128 bits with a sign. -/
def IsWide (n : Int) : Prop := wideMin ≤ n ∧ n ≤ wideMax

instance (n : Int) : Decidable (IsWide n) := inferInstanceAs (Decidable (_ ∧ _))

theorem isWide_of_natAbs_lt (h : n.natAbs < 0x1000000000000000000000000) : IsWide n := by
  unfold IsWide wideMin wideMax
  omega

/-- What a value of an integer type can hold has far less than 128 bits. -/
theorem isWide_word (w : k.Word) : IsWide w.val := by
  have hbounds := k.bounds
  have hlow := w.low_le
  have hhigh := w.le_high
  exact isWide_of_natAbs_lt (by omega)

theorem isWide_whole (d : Decimal) : IsWide d.whole :=
  isWide_of_natAbs_lt (d.natAbs_whole_le.trans_lt d.natAbs_lt)

theorem isWide_ofBool (x : Bool) : IsWide (ofBool x) := by
  cases x <;> exact isWide_of_natAbs_lt (by decide)

theorem integerOf_text {s : String} (hs : a.source? = some s) :
    integerOf a target =
      if isIntegerForm (literalOf s) then
        if IsWide (readInteger (literalOf s)) then .ok (readInteger (literalOf s))
        else .error (.ofCode .integerTooLarge
          ("'" ++ String.ofList (literalOf s) ++ "' is too large for " ++ target.text))
      else .error (invalidForm s target) := by
  cases a <;> cases hs <;> rfl

/-- The integer that is found for a value is the one that it denotes, as far as 128 bits reach. -/
theorem integerOf_eq_ok_iff (ha : a.mayDenote = true) :
    integerOf a target = .ok n ↔ a.Denotes n ∧ IsWide n := by
  have hfound {m : Int} (hwide : IsWide m) (hdenotes : a.Denotes n ↔ m = n) :
      (.ok m : Except Error Int) = .ok n ↔ a.Denotes n ∧ IsWide n := by
    rw [hdenotes, Except.ok.injEq]
    exact ⟨fun h => ⟨h, h ▸ hwide⟩, And.left⟩
  have hread {s : String} (hs : a.source? = some s) :
      integerOf a target = .ok n ↔ a.Denotes n ∧ IsWide n := by
    rw [integerOf_text hs, denotes_text_iff hs]
    constructor
    · intro h
      split at h
      · next hform =>
        split at h
        · next hwide =>
          cases h
          exact ⟨⟨hform, rfl⟩, hwide⟩
        · cases h
      · cases h
    · rintro ⟨⟨hform, rfl⟩, hwide⟩
      rw [if_pos hform, if_pos hwide]
  cases a with
  | untyped s => exact hread rfl
  | string k s => exact hread rfl
  | boolean x => exact hfound (isWide_ofBool x) denotes_boolean_iff
  | decimal d => exact hfound (isWide_whole d) denotes_decimal_iff
  | integer k w => exact hfound (isWide_word w) denotes_integer_iff
  | _ => cases ha

theorem isRangeError_integerOf (ha : a.mayDenote = true) (h : integerOf a target = .error e) :
    IsRangeError e := by
  have hread {s : String} (hs : a.source? = some s) : IsRangeError e := by
    rw [integerOf_text hs] at h
    split at h
    · split at h
      · cases h
      · cases h
        exact .inr rfl
    · cases h
      exact .inl rfl
  cases a with
  | untyped s => exact hread rfl
  | string k s => exact hread rfl
  | boolean x | decimal d | integer k w => cases h
  | _ => cases ha

/-! ### Casts -/

/-- What a value of another type is converted to. -/
theorem convert_integer_eq_ok_iff (ha : a.mayDenote = true) (ctx : ValueContext) :
    a.convert (.integer k) ctx = .ok b ↔
      ∃ w : k.Word, a.Denotes w.val ∧ k.HasValue w.val ∧ b = integer k w := by
  have hfound {w : k.Word} (hw : a.Denotes w.val) : integerOf a (.integer k) = .ok w.val :=
    (integerOf_eq_ok_iff ha).2 ⟨hw, isWide_word w⟩
  show (integerOf a (.integer k) >>= (ofInteger · k)) = .ok b ↔ _
  constructor
  · intro h
    cases hn : integerOf a (.integer k) with
    | ok n =>
      rw [hn] at h
      obtain ⟨w, rfl, hvalue, rfl⟩ := ofInteger_eq_ok_iff.1 h
      exact ⟨w, ((integerOf_eq_ok_iff ha).1 hn).1, hvalue, rfl⟩
    | error e =>
      rw [hn] at h
      cases h
  · rintro ⟨w, hw, hvalue, rfl⟩
    rw [hfound hw]
    exact ofInteger_eq_ok_iff.2 ⟨w, rfl, hvalue, rfl⟩

theorem isRangeError_convert_integer (ha : a.mayDenote = true) {ctx : ValueContext}
    (h : a.convert (.integer k) ctx = .error e) : IsRangeError e := by
  have hconvert : (integerOf a (.integer k) >>= (ofInteger · k)) = .error e := h
  cases hn : integerOf a (.integer k) with
  | ok n =>
    rw [hn] at hconvert
    exact isRangeError_ofInteger hconvert
  | error e' =>
    rw [hn] at hconvert
    cases hconvert
    exact isRangeError_integerOf ha hn

/-- A text, a truth value, a decimal number or an integer is cast to an integer type exactly if the
    integer that it denotes is one of the type and a value of the type can hold it. The result is
    this integer, and otherwise the cast fails because of the value. Only a value that has the type
    already has to be one of its values before. -/
theorem integer_cast_exact (ha : a.mayDenote = true)
    (hself : ∀ w : k.Word, a = integer k w → k.HasValue w.val) (ctx : ValueContext) :
    (∀ b, a.cast (.integer k) ctx = .ok b ↔
      ∃ w : k.Word, a.Denotes w.val ∧ k.HasValue w.val ∧ b = integer k w) ∧
    ∀ e, a.cast (.integer k) ctx = .error e → IsRangeError e := by
  by_cases htype : a.type = .integer k
  · -- The value stays as it is.
    rw [cast_self rfl htype]
    refine ⟨fun b => ?_, nofun⟩
    cases a with
    | integer l w =>
      cases htype
      constructor
      · rintro ⟨⟩
        exact ⟨w, .integer k w, hself w rfl, rfl⟩
      · rintro ⟨v, hv, -, rfl⟩
        rw [Bounded.ext_val (denotes_integer_iff.1 hv)]
    | _ => cases htype
  · rw [cast_of_ne rfl htype]
    exact ⟨fun b => convert_integer_eq_ok_iff ha ctx, fun e => isRangeError_convert_integer ha⟩

/-- The least integer of 8 bits, written with zeros and white space. -/
theorem integer_cast_exact_byte :
    let text : Atomic := .untyped "\t-00128 "
    let least : IntegerKind.byte.Word := ⟨-128, by decide, by decide⟩
    text.mayDenote = true ∧ (∀ w : IntegerKind.byte.Word, text = integer .byte w →
      IntegerKind.byte.HasValue w.val) ∧
      text.cast (.integer .byte) .standard = .ok (integer .byte least) ∧ text.Denotes (-128) ∧
      ∃ e, text.cast (.integer .unsignedByte) .standard = .error e ∧ IsRangeError e := by
  intro text least
  have hcast : text.cast (.integer .byte) .standard = .ok (integer .byte least) := by
    decide +kernel
  have hself (k : IntegerKind) (w : k.Word) : text = integer k w → k.HasValue w.val := nofun
  obtain ⟨w, hw, -, hleast⟩ := ((integer_cast_exact rfl (hself .byte) .standard).1 _).1 hcast
  cases hleast
  refine ⟨rfl, hself .byte, hcast, hw, ?_⟩
  cases hunsigned : text.cast (.integer .unsignedByte) .standard with
  | ok b =>
    have hfails : (text.cast (.integer .unsignedByte) .standard).isOk = false := by decide +kernel
    rw [hunsigned] at hfails
    cases hfails
  | error e =>
    exact ⟨e, rfl, (integer_cast_exact rfl (hself .unsignedByte) .standard).2 e hunsigned⟩

end Atomic

end XPathData
