import XPathData.Proofs.Atomic.WellFormed

/-! # Texts cast to hexadecimal bytes

  A text is cast to bytes without the white space in it. What is left has to consist of pairs of
  hexadecimal digits, and the result has these digits as capitals. One character behind the last
  pair goes unnoticed if it takes an even number of bytes in UTF-8, because the reader tells an odd
  number of characters by the bytes of the text.

  * `Atomic.cast_hexBinary` — the cast of a text, whatever it is
  * `Atomic.hexBinary_of_text` — which texts are cast, and to what
  * `Atomic.hexBinary_beyond_digits` — a text with another character behind its digits
-/

namespace XPathData.Atomic

open Text

/-- The text without the white space in it. -/
def compactText (s : String) : List Char := s.toList.filter fun c => !isAsciiSpace c

/-- A text is cast by what is read as bytes without white space. -/
theorem cast_hexBinary (s : String) (ctx : ValueContext) :
    (str s).cast .hexBinary ctx =
      (orThrow (invalidForm s .hexBinary) (Hex.decode? (compactText s))).map ofBytesHex :=
  cast_of_ne rfl nofun

theorem cast_hexBinary_of_reads {s : String} {digits : List Char}
    (h : Hex.ReadsAs (compactText s) digits) (ctx : ValueContext) :
    (str s).cast .hexBinary ctx = .ok (hexBinary (String.ofList (digits.map Char.toUpper))) := by
  obtain ⟨bytes, hbytes, hencode⟩ := h.exists_bytes
  rw [cast_hexBinary, hbytes, ← hencode]
  rfl

theorem cast_hexBinary_of_not_reads {s : String}
    (h : ¬ ∃ digits, Hex.ReadsAs (compactText s) digits) (ctx : ValueContext) :
    (str s).cast .hexBinary ctx = .error (invalidForm s .hexBinary) := by
  have hnone : Hex.decode? (compactText s) = none := by
    cases hdecode : Hex.decode? (compactText s) with
    | none => rfl
    | some bytes =>
      obtain ⟨digits, hreads, -⟩ := Hex.decode?_eq_some_iff.1 hdecode
      exact absurd ⟨digits, hreads⟩ h
  rw [cast_hexBinary, hnone]
  rfl

/-- A text is cast to hexadecimal bytes exactly if, without white space, it is read as some pairs
    of digits, and the result is these digits as capitals. It is read so if it consists of the
    digits, or of the digits and one more character that takes an even number of bytes. -/
theorem hexBinary_of_text (s : String) (ctx : ValueContext) :
    (∀ a, (str s).cast .hexBinary ctx = .ok a ↔
      ∃ digits, Hex.ReadsAs (compactText s) digits ∧
        a = hexBinary (String.ofList (digits.map Char.toUpper))) ∧
    (∀ e, (str s).cast .hexBinary ctx = .error e ↔
      (¬ ∃ digits, Hex.ReadsAs (compactText s) digits) ∧ e = invalidForm s .hexBinary) ∧
    ∀ (t : List Char) (bytes : List UInt8), Hex.decode? t = some bytes ↔
      ∃ digits, Hex.ReadsAs t digits ∧ digits.length = 2 * bytes.length ∧
        Hex.encode bytes = digits.map Char.toUpper := by
  refine ⟨?_, ?_, ?_⟩
  · intro a
    constructor
    · intro hcast
      by_cases hreads : ∃ digits, Hex.ReadsAs (compactText s) digits
      · obtain ⟨digits, hreads⟩ := hreads
        rw [cast_hexBinary_of_reads hreads] at hcast
        exact ⟨digits, hreads, (Except.ok.inj hcast).symm⟩
      · rw [cast_hexBinary_of_not_reads hreads] at hcast
        cases hcast
    · rintro ⟨digits, hreads, rfl⟩
      exact cast_hexBinary_of_reads hreads ctx
  · intro e
    constructor
    · intro hcast
      by_cases hreads : ∃ digits, Hex.ReadsAs (compactText s) digits
      · obtain ⟨digits, hreads⟩ := hreads
        rw [cast_hexBinary_of_reads hreads] at hcast
        cases hcast
      · rw [cast_hexBinary_of_not_reads hreads] at hcast
        exact ⟨hreads, (Except.error.inj hcast).symm⟩
    · rintro ⟨hreads, rfl⟩
      exact cast_hexBinary_of_not_reads hreads ctx
  · intro t bytes
    rw [Hex.decode?_eq_some_iff]
    refine exists_congr fun digits => and_congr_right fun _ => ?_
    constructor
    · intro hencode
      have hlength := congrArg List.length hencode
      rw [Hex.length_encode, List.length_map] at hlength
      exact ⟨hlength.symm, hencode⟩
    · exact And.right

/-- A letter that takes two bytes stands behind the digits of one byte. The cast leaves it out and
    succeeds, though not all characters are digits and their number is odd. -/
theorem hexBinary_beyond_digits :
    let s := "1fé"
    (str s).cast .hexBinary .standard = .ok (hexBinary "1F") ∧
      ¬ ((∃ a, (str s).cast .hexBinary .standard = .ok a) ↔
        (compactText s).length % 2 = 0 ∧ ∀ c ∈ compactText s, Hex.IsDigit c) := by
  intro s
  have hcast : (str s).cast .hexBinary .standard = .ok (hexBinary "1F") := by decide +kernel
  have hmem : 'é' ∈ compactText s := by decide +kernel
  have hother : ¬ Hex.IsDigit 'é' := by decide
  exact ⟨hcast, fun h => hother ((h.1 ⟨_, hcast⟩).2 'é' hmem)⟩

end XPathData.Atomic
