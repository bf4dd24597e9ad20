import XPathData.Proofs.Atomic.HexBinary
import XPathData.Proofs.Atomic.Key

/-! # Casts between bytes and their texts

  A binary value that a cast has made has the text that its bytes are always written as. So the
  casts between the two binary types undo one another, and values of one type are equal, and have
  one key, exactly if they denote the same bytes. Hexadecimal digits are compared by the bytes
  that they are read as, base 64 as text, and for values made by casts both come to the same.

  * `Atomic.IsTextOf` — the texts of bytes in a binary type
  * `Atomic.HasBytes` — the bytes that a value denotes
  * `Atomic.cast_eq_ok_iff_hasBytes` — what is cast to a binary type, and to what
  * `Atomic.binary_casts` — casts undo one another, and equality is that of bytes
-/

namespace XPathData.Atomic

open Text

/-! ### Bytes of values -/

/-- A text of bytes in a binary type: their hexadecimal digits, of either case, or the characters
    of base 64. -/
def IsTextOf (target : AtomicType) (s : List Char) (B : List UInt8) : Prop :=
  match target with
  | .hexBinary => ∃ digits, Hex.ReadsAs s digits ∧ Hex.encode B = digits.map Char.toUpper
  | .base64Binary => s = Base64.encode B
  | _ => False

/-- The bytes that a value denotes: a string or an untyped value those that its text has in the
    target without white space, a binary value those that its text has in its own type. -/
inductive HasBytes (target : AtomicType) : Atomic → List UInt8 → Prop where
  | text {a : Atomic} {s : String} {B : List UInt8} (hsource : a.source? = some s)
    (h : IsTextOf target (compactText s) B) : HasBytes target a B
  | hexBinary {s : String} {B : List UInt8} (h : IsTextOf .hexBinary s.toList B) :
    HasBytes target (hexBinary s) B
  | base64Binary {s : String} {B : List UInt8} (h : IsTextOf .base64Binary s.toList B) :
    HasBytes target (base64Binary s) B

/-- Bytes as a value of a binary type. -/
def ofBytes (target : AtomicType) (B : List UInt8) : Atomic :=
  if target = .hexBinary then ofBytesHex B else ofBytesBase64 B

variable {a v : Atomic} {target : AtomicType} {B C : List UInt8} {s : String} {ctx : ValueContext}

theorem orThrow_eq_ok_iff {α : Type} {e : Error} {o : Option α} {x : α} :
    orThrow e o = .ok x ↔ o = some x := by
  cases o <;> simp [orThrow]

theorem bytesOf_of_source (hsource : a.source? = some s) :
    bytesOf a target = orThrow (invalidForm s target)
      (if target = .hexBinary then Hex.decode? (compactText s)
        else Base64.decode? (compactText s)) := by
  cases a with
  | untyped _ | string _ _ =>
    cases hsource
    rfl
  | _ => cases hsource

/-- The bytes that are read off a value are those that it denotes. -/
theorem bytesOf_eq_ok_iff (ht : target = .hexBinary ∨ target = .base64Binary) :
    bytesOf a target = .ok B ↔ HasBytes target a B := by
  have hhex (t : List Char) : Hex.decode? t = some B ↔ IsTextOf .hexBinary t B :=
    Hex.decode?_eq_some_iff
  have hbase64 (t : List Char) : Base64.decode? t = some B ↔ IsTextOf .base64Binary t B :=
    Base64.decode?_eq_some_iff
  have htext {s : String} (hsource : a.source? = some s) :
      bytesOf a target = .ok B ↔ IsTextOf target (compactText s) B := by
    rw [bytesOf_of_source hsource, orThrow_eq_ok_iff]
    rcases ht with rfl | rfl
    · exact hhex _
    · exact hbase64 _
  constructor
  · intro h
    cases hsource : a.source? with
    | some s => exact .text hsource ((htext hsource).1 h)
    | none =>
      cases a with
      | hexBinary s => exact .hexBinary ((hhex _).1 (orThrow_eq_ok_iff.1 h))
      | base64Binary s => exact .base64Binary ((hbase64 _).1 (orThrow_eq_ok_iff.1 h))
      | untyped _ | string _ _ => cases hsource
      | _ => cases h
  · intro h
    cases h with
    | text hsource h => exact (htext hsource).2 h
    | hexBinary h => exact orThrow_eq_ok_iff.2 ((hhex _).2 h)
    | base64Binary h => exact orThrow_eq_ok_iff.2 ((hbase64 _).2 h)

/-- The value of bytes denotes these bytes, because its text is read as them. -/
theorem hasBytes_ofBytes (ht : target = .hexBinary ∨ target = .base64Binary) (t : AtomicType)
    (B : List UInt8) : HasBytes target (ofBytes t B) B := by
  rw [← bytesOf_eq_ok_iff ht, ofBytes]
  split
  · show orThrow _ (Hex.decode? (String.ofList (Hex.encode B)).toList) = _
    rw [String.toList_ofList, Hex.decode?_encode]
    rfl
  · show orThrow _ (Base64.decode? (String.ofList (Base64.encode B)).toList) = _
    rw [String.toList_ofList, Base64.decode?_encode]
    rfl

/-- A value denotes no more than one run of bytes. -/
theorem HasBytes.unique (ht : target = .hexBinary ∨ target = .base64Binary)
    (h : HasBytes target a B) : HasBytes target a C ↔ C = B := by
  have hB := (bytesOf_eq_ok_iff ht).2 h
  constructor
  · intro hC
    rw [← bytesOf_eq_ok_iff ht, hB] at hC
    exact (Except.ok.inj hC).symm
  · rintro rfl
    exact h

/-! ### Casts -/

/-- A value of another type is cast to a binary type exactly if it denotes bytes, and the result
    has the text that these bytes are written as. -/
theorem cast_eq_ok_iff_hasBytes (ht : target = .hexBinary ∨ target = .base64Binary)
    (hne : a.type ≠ target) :
    a.cast target ctx = .ok v ↔ ∃ B, HasBytes target a B ∧ v = ofBytes target B := by
  have hcast : a.cast target ctx = (bytesOf a target).map (ofBytes target) := by
    rcases ht with rfl | rfl
    · exact cast_of_ne rfl hne
    · exact cast_of_ne rfl hne
  rw [hcast]
  constructor
  · intro h
    cases hbytes : bytesOf a target with
    | ok B =>
      rw [hbytes] at h
      exact ⟨B, (bytesOf_eq_ok_iff ht).1 hbytes, (Except.ok.inj h).symm⟩
    | error e =>
      rw [hbytes] at h
      cases h
  · rintro ⟨B, hB, rfl⟩
    rw [(bytesOf_eq_ok_iff ht).2 hB]
    rfl

theorem cast_of_hasBytes (ht : target = .hexBinary ∨ target = .base64Binary) (hne : a.type ≠ target)
    (h : HasBytes target a B) : a.cast target ctx = .ok (ofBytes target B) :=
  (cast_eq_ok_iff_hasBytes ht hne).2 ⟨B, h, rfl⟩

/-! ### Equality -/

/-- Values of one type compare like their bytes, though one type compares the bytes that the digits
    are read as, and the other the text. -/
theorem compareBy_ofBytes (target : AtomicType) (B C : List UInt8) (ctx : ValueContext) :
    compareBy .eq (ofBytes target B) (ofBytes target C) ctx = .ok (decide (B = C)) := by
  have hrelate : relate? (ofBytes target B) (ofBytes target C) ctx =
      some (Except.ok (.equality (decide (B = C)))) := by
    unfold ofBytes
    split
    · show some (Except.ok (Relation.equality (Hex.decode? (String.ofList _).toList ==
        Hex.decode? (String.ofList _).toList))) = _
      rw [String.toList_ofList, String.toList_ofList, Hex.decode?_encode, Hex.decode?_encode]
      simp [beq_eq_decide]
    · have htext : String.ofList (Base64.encode B) = String.ofList (Base64.encode C) ↔ B = C := by
        rw [String.ofList_inj]
        exact ⟨Base64.encode_inj, congrArg Base64.encode⟩
      show some (Except.ok (Relation.equality (String.ofList _ == String.ofList _))) = _
      simp only [beq_eq_decide, htext]
  refine compareBy_eq_ok_iff.2 ⟨_, hrelate, ?_⟩
  cases decide (B = C) <;> rfl

/-- Values of one type have one key exactly if they have the same bytes. -/
theorem exists_keys_ofBytes (target : AtomicType) (B C : List UInt8) (ctx ctx' : ValueContext) :
    ∃ k l, EqualityKey.of (ofBytes target B) ctx = .ok k ∧
      EqualityKey.of (ofBytes target C) ctx' = .ok l ∧ (k = l ↔ B = C) := by
  unfold ofBytes
  split
  · refine ⟨.binary .hexBinary B, .binary .hexBinary C, ?_, ?_, ?_⟩
    · rw [ofBytesHex, EqualityKey.of_hexBinary, String.toList_ofList, Hex.decode?_encode]
    · rw [ofBytesHex, EqualityKey.of_hexBinary, String.toList_ofList, Hex.decode?_encode]
    · simp
  · refine ⟨_, _, rfl, rfl, ?_⟩
    rw [EqualityKey.lexical.injEq, String.ofList_inj]
    exact ⟨fun h => Base64.encode_inj h.2, fun h => ⟨rfl, congrArg Base64.encode h⟩⟩

/-- Bytes are cast from one binary type to the other and back. Two values that casts have made of
    values of other types denote the bytes that they were made of, and no others; they are equal,
    and have one key, exactly if these bytes are the same. -/
theorem binary_casts :
    (∀ (B : List UInt8) (ctx : ValueContext),
      (ofBytesHex B).cast .base64Binary ctx = .ok (ofBytesBase64 B) ∧
        (ofBytesBase64 B).cast .hexBinary ctx = .ok (ofBytesHex B)) ∧
    ∀ (target : AtomicType), target = .hexBinary ∨ target = .base64Binary →
      ∀ (a b v w : Atomic) (ctx ctx' : ValueContext), a.type ≠ target → b.type ≠ target →
        a.cast target ctx = .ok v → b.cast target ctx' = .ok w →
        ∃ B C : List UInt8, (∀ D, HasBytes target a D ↔ D = B) ∧ (∀ D, HasBytes target v D ↔ D = B) ∧
          (∀ D, HasBytes target b D ↔ D = C) ∧ (∀ D, HasBytes target w D ↔ D = C) ∧
          ∀ (ctx ctx' : ValueContext), compareBy .eq v w ctx = .ok (decide (B = C)) ∧
            ∃ k l, EqualityKey.of v ctx = .ok k ∧ EqualityKey.of w ctx' = .ok l ∧
              (k = l ↔ B = C) := by
  constructor
  · intro B ctx
    have hhex : (ofBytesHex B).type ≠ AtomicType.base64Binary :=
      show AtomicType.hexBinary ≠ .base64Binary by decide
    have hbase64 : (ofBytesBase64 B).type ≠ AtomicType.hexBinary :=
      show AtomicType.base64Binary ≠ .hexBinary by decide
    constructor
    · exact cast_of_hasBytes (.inr rfl) hhex (hasBytes_ofBytes (.inr rfl) .hexBinary B)
    · exact cast_of_hasBytes (.inl rfl) hbase64 (hasBytes_ofBytes (.inl rfl) .base64Binary B)
  · intro target ht a b v w ctx ctx' ha hb hv hw
    obtain ⟨B, haB, rfl⟩ := (cast_eq_ok_iff_hasBytes ht ha).1 hv
    obtain ⟨C, hbC, rfl⟩ := (cast_eq_ok_iff_hasBytes ht hb).1 hw
    have hvB := hasBytes_ofBytes ht target B
    have hwC := hasBytes_ofBytes ht target C
    refine ⟨B, C, fun D => haB.unique ht, fun D => hvB.unique ht, fun D => hbC.unique ht,
      fun D => hwC.unique ht, fun ctx ctx' => ⟨?_, ?_⟩⟩
    · exact compareBy_ofBytes target B C ctx
    · exact exists_keys_ofBytes target B C ctx ctx'

/-- Digits of both cases with spaces between them denote the same bytes as a text in base 64. -/
theorem binary_casts_two_bytes :
    let a := str " 0a fF"
    let b := base64Binary "Cv8="
    let v := hexBinary "0AFF"
    a.type ≠ .hexBinary ∧ b.type ≠ .hexBinary ∧ a.cast .hexBinary .standard = .ok v ∧
      b.cast .hexBinary .standard = .ok v ∧
      ∃ B, HasBytes .hexBinary a B ∧ HasBytes .hexBinary b B := by
  intro a b v
  have ha : a.type ≠ .hexBinary := by decide
  have hb : b.type ≠ .hexBinary := by decide
  have hav : a.cast .hexBinary .standard = .ok v := by decide +kernel
  have hbv : b.cast .hexBinary .standard = .ok v := by decide +kernel
  obtain ⟨B, C, haB, hvB, hbC, hvC, -⟩ :=
    binary_casts.2 .hexBinary (.inl rfl) a b v v .standard .standard ha hb hav hbv
  obtain rfl : B = C := (hvC B).1 ((hvB B).2 rfl)
  exact ⟨ha, hb, hav, hbv, B, (haB B).2 rfl, (hbC B).2 rfl⟩

end XPathData.Atomic
