import XPathData.Text.Split

/-! # Texts by bytes

  In UTF-8 a place in a text is a number of bytes. Not every number is one: a byte is asked for
  inside of the text, and a piece starts and ends where characters do. Here such a question has a
  fault where it goes wrong, and the laws tell when it does not.

  * `Bytewise.byteAt`, `Bytewise.slice` — a byte and a piece of a text
  * `Bytewise.byteAt_eq_ascii_iff` — an ASCII byte is a character of its own, so it has boundaries
    on both sides
  * `Bytewise.slice_eq_ok_iff` — what the pieces of a text are
-/

namespace XPathData.Bytewise

open Text

/-- What is wrong with an offset. -/
inductive OffsetFault where
  /-- Nothing is there. -/
  | outside
  /-- The piece ends before it starts. -/
  | reversed
  /-- It is inside of a character, or behind the end. -/
  | noBoundary
  deriving DecidableEq, Repr

/-- A computation all of whose offsets have to be right. -/
abbrev Checked (α : Type) := Except OffsetFault α

/-! ### Questions -/

/-- The offset that many bytes before the end. -/
def fromEnd (s : String) (n : Nat) : Checked Nat :=
  if n ≤ s.utf8ByteSize then .ok (s.utf8ByteSize - n) else .error .outside

/-- The byte at an offset. -/
def byteAt (s : String) (i : Nat) : Checked UInt8 :=
  if h : (⟨i⟩ : String.Pos.Raw) < s.rawEndPos then .ok (s.getUTF8Byte ⟨i⟩ h) else .error .outside

/-- The piece between two offsets. -/
def slice (s : String) (first last : Nat) : Checked (List Char) :=
  if h : String.Pos.Raw.IsValid s ⟨first⟩ ∧ String.Pos.Raw.IsValid s ⟨last⟩ then
    if first ≤ last then .ok (String.extract (s.pos ⟨first⟩ h.1) (s.pos ⟨last⟩ h.2)).toList
    else .error .reversed
  else .error .noBoundary

/-- The items of a list from an index on. -/
def itemsFrom {α : Type} (l : List α) (n : Nat) : Checked (List α) :=
  if n ≤ l.length then .ok (l.drop n) else .error .outside

theorem itemsFrom_eq {α : Type} {l : List α} {n : Nat} (h : n ≤ l.length) :
    itemsFrom l n = .ok (l.drop n) := if_pos h

/-! ### Sizes -/

variable {s : String} {a b c : List Char} {x : Char} {i j : Nat}

theorem utf8Size_toList (s : String) : utf8Size s.toList = s.utf8ByteSize := by
  have hsize (l : List Char) : utf8Size l = (String.ofList l).utf8ByteSize := by
    induction l with
    | nil => rfl
    | cons x l ih =>
      have hcons : String.ofList (x :: l) = String.singleton x ++ String.ofList l := by
        rw [String.singleton_eq_ofList, ← String.ofList_append]
        rfl
      rw [hcons, String.utf8ByteSize_append, String.utf8ByteSize_singleton, ← ih]
      rfl
  rw [hsize, String.ofList_toList]

theorem utf8Size_cons (x : Char) (a : List Char) :
    utf8Size (x :: a) = x.utf8Size + utf8Size a := rfl

theorem utf8Size_eq_zero_iff : utf8Size a = 0 ↔ a = [] := by
  cases a with
  | nil => exact ⟨fun _ => rfl, fun _ => rfl⟩
  | cons x a =>
    have hpos := x.utf8Size_pos
    rw [utf8Size_cons]
    constructor
    · omega
    · intro h
      cases h

/-- Of two cuts through a text the one with fewer bytes in front of it comes first. -/
theorem exists_between {d : List Char} (h : a ++ b = c ++ d) (hsize : utf8Size a ≤ utf8Size c) :
    ∃ m, c = a ++ m ∧ b = m ++ d := by
  rcases List.append_eq_append_iff.1 h with ⟨m, hc, hb⟩ | ⟨m, ha, hd⟩
  · exact ⟨m, hc, hb⟩
  · -- The other way round nothing can be between them.
    rw [ha, utf8Size_append] at hsize
    obtain rfl : m = [] := utf8Size_eq_zero_iff.1 (by omega)
    exact ⟨[], by simpa using ha.symm, by simpa using hd.symm⟩

theorem eq_append_ofList (h : s.toList = a ++ b) : s = String.ofList a ++ String.ofList b := by
  rw [← String.ofList_append, ← h, String.ofList_toList]

theorem utf8ByteSize_ofList (a : List Char) : (String.ofList a).utf8ByteSize = utf8Size a := by
  rw [← utf8Size_toList, String.toList_ofList]

theorem size_utf8Encode (a : List Char) : a.utf8Encode.size = utf8Size a := by
  rw [← utf8ByteSize_ofList, ← String.size_toByteArray, String.toByteArray_ofList]

/-! ### Boundaries -/

/-- Characters start and end exactly where the text can be cut in two. -/
theorem isValid_iff :
    String.Pos.Raw.IsValid s ⟨i⟩ ↔ ∃ a b, s.toList = a ++ b ∧ utf8Size a = i := by
  rw [String.Pos.Raw.isValid_iff_exists_append]
  constructor
  · rintro ⟨t, u, rfl, h⟩
    refine ⟨t.toList, u.toList, String.toList_append, ?_⟩
    rw [utf8Size_toList]
    exact (congrArg String.Pos.Raw.byteIdx h).symm
  · rintro ⟨a, b, hs, rfl⟩
    refine ⟨String.ofList a, String.ofList b, eq_append_ofList hs, ?_⟩
    exact congrArg String.Pos.Raw.mk (utf8ByteSize_ofList a).symm

theorem isValid_zero (s : String) : String.Pos.Raw.IsValid s ⟨0⟩ :=
  isValid_iff.2 ⟨[], s.toList, rfl, rfl⟩

/-- Two cuts through a text give a piece of it. -/
theorem slice_of_toList (h : s.toList = a ++ b ++ c) :
    slice s (utf8Size a) (utf8Size a + utf8Size b) = .ok b := by
  have hfirst : String.Pos.Raw.IsValid s ⟨utf8Size a⟩ :=
    isValid_iff.2 ⟨a, b ++ c, by rw [h, List.append_assoc], rfl⟩
  have hlast : String.Pos.Raw.IsValid s ⟨utf8Size a + utf8Size b⟩ :=
    isValid_iff.2 ⟨a ++ b, c, h, utf8Size_append a b⟩
  have hbytes : s.toByteArray = a.utf8Encode ++ (b.utf8Encode ++ c.utf8Encode) := by
    rw [← String.utf8Encode_toList, h, List.utf8Encode_append, List.utf8Encode_append,
      ByteArray.append_assoc]
  have hpiece : String.extract (s.pos _ hfirst) (s.pos _ hlast) = String.ofList b := by
    rw [← String.toByteArray_inj, String.toByteArray_extract, String.offset_pos, String.offset_pos,
      hbytes, String.toByteArray_ofList, ← size_utf8Encode a, ← size_utf8Encode b]
    show (a.utf8Encode ++ (b.utf8Encode ++ c.utf8Encode)).extract (a.utf8Encode.size + 0)
      (a.utf8Encode.size + b.utf8Encode.size) = b.utf8Encode
    rw [ByteArray.extract_append_size_add, ByteArray.extract_append_eq_left rfl]
  rw [slice, dif_pos ⟨hfirst, hlast⟩, if_pos (Nat.le_add_right _ _), hpiece, String.toList_ofList]

/-- The pieces of a text are what stands between two cuts through it. -/
theorem slice_eq_ok_iff : slice s i j = .ok b ↔
    ∃ a c, s.toList = a ++ b ++ c ∧ utf8Size a = i ∧ utf8Size a + utf8Size b = j := by
  constructor
  · intro h
    have hpiece := h
    unfold slice at h
    split at h
    · next hvalid =>
      split at h
      · next hle =>
        obtain ⟨a, b', hfirst, rfl⟩ := isValid_iff.1 hvalid.1
        obtain ⟨d, c, hlast, rfl⟩ := isValid_iff.1 hvalid.2
        obtain ⟨m, rfl, rfl⟩ := exists_between (hfirst.symm.trans hlast) hle
        -- The characters between the cuts are what was cut out.
        rw [utf8Size_append, slice_of_toList hlast] at hpiece
        cases hpiece
        exact ⟨a, c, hlast, rfl, (utf8Size_append a b).symm⟩
      · cases h
    · cases h
  · rintro ⟨a, c, h, rfl, rfl⟩
    exact slice_of_toList h

/-- Between two boundaries, the first of which is not behind the other, there is a piece. -/
theorem exists_slice (hi : String.Pos.Raw.IsValid s ⟨i⟩) (hj : String.Pos.Raw.IsValid s ⟨j⟩)
    (h : i ≤ j) : ∃ piece, slice s i j = .ok piece :=
  ⟨_, (dif_pos ⟨hi, hj⟩).trans (if_pos h)⟩

/-- What is in front of a cut. -/
theorem slice_zero (h : s.toList = a ++ b) : slice s 0 (utf8Size a) = .ok a :=
  slice_eq_ok_iff.2 ⟨[], b, h, rfl, Nat.zero_add _⟩

/-- What is behind a cut. -/
theorem slice_to_end (h : s.toList = a ++ b) :
    slice s (utf8Size a) s.utf8ByteSize = .ok b := by
  rw [← utf8Size_toList, h, utf8Size_append]
  exact slice_eq_ok_iff.2 ⟨a, [], h.trans (List.append_nil _).symm, rfl, rfl⟩

theorem exists_slice_to_end (h : String.Pos.Raw.IsValid s ⟨i⟩) :
    ∃ piece, slice s i s.utf8ByteSize = .ok piece := by
  obtain ⟨a, b, hs, rfl⟩ := isValid_iff.1 h
  exact ⟨b, slice_to_end hs⟩

/-! ### Bytes -/

/-- Inside of a text there are bytes everywhere. -/
theorem exists_byteAt (h : i < s.utf8ByteSize) : ∃ byte, byteAt s i = .ok byte := by
  have hinside : (⟨i⟩ : String.Pos.Raw) < s.rawEndPos := h
  exact ⟨_, dif_pos hinside⟩

/-- The first byte of a character of several bytes is none of those of ASCII characters. -/
theorem le_head_utf8EncodeChar (hx : 1 < x.utf8Size) {first : UInt8} {more : List UInt8}
    (h : String.utf8EncodeChar x = first :: more) : 128 ≤ first.toNat := by
  have hor (lead : UInt8) (hlead : 128 ≤ lead.toNat) (u : UInt8) : 128 ≤ (u ||| lead).toNat := by
    rw [UInt8.toNat_or]
    exact Nat.le_trans hlead Nat.right_le_or
  match hsize : x.utf8Size, hx, x.utf8Size_le_four with
  | 2, _, _ =>
    rw [String.utf8EncodeChar_eq_cons_cons hsize, List.cons.injEq] at h
    exact h.1 ▸ hor _ (by decide) _
  | 3, _, _ =>
    rw [String.utf8EncodeChar_eq_cons_cons_cons hsize, List.cons.injEq] at h
    exact h.1 ▸ hor _ (by decide) _
  | 4, _, _ =>
    rw [String.utf8EncodeChar_eq_cons_cons_cons_cons hsize, List.cons.injEq] at h
    exact h.1 ▸ hor _ (by decide) _

theorem utf8Size_of_ascii (hx : x.toNat < 128) : x.utf8Size = 1 :=
  Char.utf8Size_eq_one_iff.2 (UInt32.le_iff_toNat_le.2 (Nat.le_of_lt_succ hx))

theorem utf8Size_concat (hx : x.toNat < 128) : utf8Size (a ++ [x]) = utf8Size a + 1 := by
  rw [utf8Size_append, utf8Size_cons, utf8Size_of_ascii hx]
  rfl

theorem toNat_toUInt8 (hx : x.toNat < 128) : x.toUInt8.toNat = x.toNat := by
  show x.val.toUInt8.toNat = x.val.toNat
  rw [UInt32.toNat_toUInt8]
  exact Nat.mod_eq_of_lt (Nat.lt_trans hx (by decide))

/-- Where a character starts, its first byte is found. -/
theorem exists_byteAt_of_toList (h : s.toList = a ++ x :: b) :
    ∃ first more, String.utf8EncodeChar x = first :: more ∧ byteAt s (utf8Size a) = .ok first := by
  obtain ⟨first, more, hbytes⟩ : ∃ first more, String.utf8EncodeChar x = first :: more :=
    List.exists_cons_of_length_pos (by rw [String.length_utf8EncodeChar]; exact x.utf8Size_pos)
  have hs : s.toByteArray = a.utf8Encode ++ ((first :: more).toByteArray ++ b.utf8Encode) := by
    rw [← String.utf8Encode_toList, h, List.utf8Encode_append, List.utf8Encode_cons,
      List.utf8Encode_singleton, hbytes]
  have hinside : (⟨utf8Size a⟩ : String.Pos.Raw) < s.rawEndPos := by
    show utf8Size a < s.utf8ByteSize
    rw [← utf8Size_toList, h, utf8Size_append]
    exact Nat.lt_add_of_pos_right (Nat.add_pos_left x.utf8Size_pos _)
  refine ⟨first, more, hbytes, ?_⟩
  rw [byteAt, dif_pos hinside, String.getUTF8Byte_eq_getElem]
  simp [hs, ← size_utf8Encode, ByteArray.getElem_append_right]

/-- The byte of an ASCII character at the start of a character is that of no other one. -/
theorem eq_of_byteAt_ascii {y : Char} (hx : x.toNat < 128) (h : s.toList = a ++ y :: b)
    (hbyte : byteAt s (utf8Size a) = .ok x.toUInt8) : y = x := by
  obtain ⟨first, more, hbytes, hfirst⟩ := exists_byteAt_of_toList h
  obtain rfl : first = x.toUInt8 := Except.ok.inj (hfirst.symm.trans hbyte)
  have hsize : y.utf8Size = 1 := by
    have hpos := y.utf8Size_pos
    rcases Nat.lt_or_ge 1 y.utf8Size with hlong | hshort
    · have hlead := le_head_utf8EncodeChar hlong hbytes
      rw [toNat_toUInt8 hx] at hlead
      omega
    · omega
  have hy : y.toNat < 128 :=
    Nat.lt_succ_of_le (UInt32.le_iff_toNat_le.1 (Char.utf8Size_eq_one_iff.1 hsize))
  rw [String.utf8EncodeChar_eq_singleton hsize] at hbytes
  have hsame : y.toUInt8 = x.toUInt8 := (List.cons.inj hbytes).1
  rw [← Char.toNat_inj, ← toNat_toUInt8 hx, ← toNat_toUInt8 hy, hsame]

/-- An ASCII byte is found exactly where its character starts: no other character has it inside. -/
theorem byteAt_eq_ascii_iff (hx : x.toNat < 128) :
    byteAt s i = .ok x.toUInt8 ↔ ∃ a b, s.toList = a ++ x :: b ∧ utf8Size a = i := by
  constructor
  · intro h
    have hbyte := h
    unfold byteAt at h
    split at h
    · next hinside =>
      have hfirst : (s.getUTF8Byte ⟨i⟩ hinside).IsUTF8FirstByte := by
        have hhigh : ∀ n < 128, n &&& 128 = 0 := by decide
        rw [Except.ok.inj h]
        refine .inl (UInt8.toNat_inj.1 ?_)
        rw [UInt8.toNat_and, toNat_toUInt8 hx]
        exact hhigh _ hx
      obtain ⟨a, b, hs, rfl⟩ := isValid_iff.1 (String.Pos.Raw.isValid_iff_isUTF8FirstByte.2
        (.inr ⟨hinside, hfirst⟩))
      -- A character starts there, and it is the one with this byte.
      cases b with
      | nil =>
        have hend : utf8Size a < s.utf8ByteSize := hinside
        rw [← utf8Size_toList, hs, List.append_nil] at hend
        exact absurd hend (Nat.lt_irrefl _)
      | cons y b =>
        refine ⟨a, b, ?_, rfl⟩
        rw [hs, eq_of_byteAt_ascii hx hs hbyte]
    · cases h
  · rintro ⟨a, b, h, rfl⟩
    obtain ⟨first, more, hbytes, hbyte⟩ := exists_byteAt_of_toList h
    rw [String.utf8EncodeChar_eq_singleton (utf8Size_of_ascii hx)] at hbytes
    cases hbytes
    exact hbyte

end XPathData.Bytewise
