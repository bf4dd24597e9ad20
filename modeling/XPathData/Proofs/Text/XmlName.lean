import Mathlib.Tactic.Tauto
import XPathData.Proofs.Unicode.Coverage
import XPathData.Text.XmlName

/-! # The characters of names

  XML 1.0 lists the characters of names as ranges of code points. Here a character is let into a
  name if it is a letter or a number, so the two disagree in both directions. The letters and
  numbers beyond the ranges are few and stand in tables. What the ranges have beyond letters and
  numbers is most of the code space: accents that are combined with a letter, joiners, and all code
  points that are not assigned.

  * `Text.IsXmlName` — the names of XML 1.0
  * `Text.isXmlName_iff_of_isName` — which of the names read here are names of XML
  * `Text.isName_iff_of_isXmlName` — which names of XML are read here
-/

namespace XPathData.Text

open Unicode

variable {colon : Bool} {c : Char} {s : List Char}

/-! ### The grammar -/

/-- What a name can start with, except the colon. The ranges are those of `NameStartChar` in the
    fifth edition. -/
def xmlStart : Intervals :=
  [(0x41, 0x5A), (0x5F, 0x5F), (0x61, 0x7A), (0xC0, 0xD6), (0xD8, 0xF6), (0xF8, 0x2FF),
   (0x370, 0x37D), (0x37F, 0x1FFF), (0x200C, 0x200D), (0x2070, 0x218F), (0x2C00, 0x2FEF),
   (0x3001, 0xD7FF), (0xF900, 0xFDCF), (0xFDF0, 0xFFFD), (0x10000, 0xEFFFF)]

/-- What a name can only go on with: what `NameChar` adds to `NameStartChar`. -/
def xmlRest : Intervals :=
  [(0x2D, 0x2E), (0x30, 0x39), (0xB7, 0xB7), (0x300, 0x36F), (0x203F, 0x2040)]

/-- A name of XML can start with the character. -/
def IsXmlStart (colon : Bool) (c : Char) : Prop := colon = true ∧ c = ':' ∨ xmlStart.has c = true

/-- A name of XML can go on with the character. -/
def IsXmlChar (colon : Bool) (c : Char) : Prop := IsXmlStart colon c ∨ xmlRest.has c = true

/-- A name of XML, with or without colons in it. -/
def IsXmlName (colon : Bool) : List Char → Prop
  | [] => False
  | c :: s => IsXmlStart colon c ∧ ∀ d ∈ s, IsXmlChar colon d

/-! ### Letters and numbers outside the grammar -/

/-- The letters that no name of XML starts with. -/
def strayStart : Intervals :=
  [(0xAA, 0xAA), (0xB5, 0xB5), (0xBA, 0xBA), (0x345, 0x345), (0x363, 0x36F), (0x24B6, 0x24E9)]

/-- The letters and numbers that no name of XML has. -/
def strayRest : Intervals :=
  [(0xAA, 0xAA), (0xB2, 0xB3), (0xB5, 0xB5), (0xB9, 0xBA), (0xBC, 0xBE), (0x2460, 0x249B),
   (0x24B6, 0x24FF), (0x2776, 0x2793)]

/-- Somewhere in the text stands a letter or a number that XML does not have there. -/
def HasStray : List Char → Prop
  | [] => False
  | c :: s => strayStart.has c = true ∨ ∃ d ∈ s, strayRest.has d = true

theorem isNameStart_eq_true_iff : isNameStart colon c = true ↔
    colon = true ∧ c = ':' ∨ c = '_' ∨ isAlphabetic c = true := by
  simp [isNameStart, or_assoc]

theorem isNameChar_eq_true_iff : isNameChar colon c = true ↔
    isNameStart colon c = true ∨ isNumber c = true ∨ c = '-' ∨ c = '.' ∨ c = '·' := by
  simp [isNameChar, or_assoc]

theorem xmlStart_or_stray_of_alphabetic (h : isAlphabetic c = true) :
    xmlStart.has c = true ∨ strayStart.has c = true := by
  -- Some runs of letters begin in the table and go on in the grammar, so the table is tried first.
  have hcovers : (strayStart ++ xmlStart).covers alphabetic = true := by decide +kernel
  have hc := Intervals.has_of_covers hcovers h
  rw [Intervals.has_append, Bool.or_eq_true] at hc
  exact hc.symm

theorem xml_or_stray_of_table {t : Intervals} (h : (strayRest ++ xmlRest ++ xmlStart).covers t = true)
    (hc : t.has c = true) : IsXmlChar colon c ∨ strayRest.has c = true := by
  have hall := Intervals.has_of_covers h hc
  rw [Intervals.has_append, Intervals.has_append, Bool.or_eq_true, Bool.or_eq_true] at hall
  rcases hall with (hstray | hrest) | hstart
  · exact .inr hstray
  · exact .inl (.inr hrest)
  · exact .inl (.inl (.inr hstart))

theorem xml_or_stray_of_alphabetic (h : isAlphabetic c = true) :
    IsXmlChar colon c ∨ strayRest.has c = true :=
  xml_or_stray_of_table (t := alphabetic) (by decide +kernel) h

theorem xml_or_stray_of_number (h : isNumber c = true) :
    IsXmlChar colon c ∨ strayRest.has c = true := by
  rw [isNumber, Bool.or_eq_true, Bool.or_eq_true] at h
  rcases h with (h | h) | h
  · exact xml_or_stray_of_table (t := Category.decimalNumber) (by decide +kernel) h
  · exact xml_or_stray_of_table (t := Category.letterNumber) (by decide +kernel) h
  · exact xml_or_stray_of_table (t := Category.otherNumber) (by decide +kernel) h

/-- A character that a name is started with here starts names of XML, unless it is in the table. -/
theorem isXmlStart_iff_of_isNameStart (h : isNameStart colon c = true) :
    IsXmlStart colon c ↔ ¬ strayStart.has c = true := by
  constructor
  · rintro (⟨-, rfl⟩ | hstart)
    · decide
    · intro hstray
      exact Intervals.not_has_of_isApart (by decide) hstray hstart
  · intro hstray
    rcases isNameStart_eq_true_iff.1 h with hcolon | rfl | hletter
    · exact .inl hcolon
    · exact .inr (by decide)
    · exact .inr ((xmlStart_or_stray_of_alphabetic hletter).resolve_right hstray)

/-- A character that a name goes on with here is one of names of XML, unless it is in the table. -/
theorem isXmlChar_iff_of_isNameChar (h : isNameChar colon c = true) :
    IsXmlChar colon c ↔ ¬ strayRest.has c = true := by
  constructor
  · rintro ((⟨-, rfl⟩ | hstart) | hrest)
    · decide
    · intro hstray
      exact Intervals.not_has_of_isApart (by decide) hstray hstart
    · intro hstray
      exact Intervals.not_has_of_isApart (by decide) hstray hrest
  · intro hstray
    rcases isNameChar_eq_true_iff.1 h with hstart | hnumber | rfl | rfl | rfl
    · rcases isNameStart_eq_true_iff.1 hstart with hcolon | rfl | hletter
      · exact .inl (.inl hcolon)
      · exact .inl (.inr (by decide))
      · exact (xml_or_stray_of_alphabetic hletter).resolve_right hstray
    · exact (xml_or_stray_of_number hnumber).resolve_right hstray
    · exact .inr (by decide)
    · exact .inr (by decide)
    · exact .inr (by decide)

/-- What is read as a name here is a name of XML unless it has a letter or number from the
    tables. -/
theorem isXmlName_iff_of_isName (h : isName colon s = true) : IsXmlName colon s ↔ ¬ HasStray s := by
  match s, h with
  | c :: s, h =>
    obtain ⟨hc, hs⟩ := Bool.and_eq_true_iff.1 h
    rw [IsXmlName, HasStray, isXmlStart_iff_of_isNameStart hc, not_or, not_exists]
    refine and_congr_right fun _ => forall_congr' fun d => ?_
    rw [not_and]
    exact imp_congr_right fun hd => isXmlChar_iff_of_isNameChar (List.all_eq_true.1 hs d hd)

/-! ### Other characters of the grammar -/

/-- No letter, number or mark that names have here. -/
def IsUnread (c : Char) : Prop :=
  isAlphabetic c = false ∧ isNumber c = false ∧ c ∉ [':', '_', '-', '.', '·']

/-- The text starts with a character that is no letter, or has a character that is neither a letter
    nor a number. -/
def HasUnread : List Char → Prop
  | [] => False
  | c :: s => isAlphabetic c = false ∧ c ≠ ':' ∧ c ≠ '_' ∨ ∃ d ∈ s, IsUnread d

/-- The grammar has no colons in names without colons. -/
theorem IsXmlStart.eq_colon (h : IsXmlStart colon ':') : colon = true := by
  rcases h with h | h
  · exact h.1
  · exact absurd h (by decide)

theorem IsXmlChar.eq_colon (h : IsXmlChar colon ':') : colon = true := by
  rcases h with h | h
  · exact h.eq_colon
  · exact absurd h (by decide)

theorem isNameStart_iff_of_isXmlStart (h : IsXmlStart colon c) :
    isNameStart colon c = true ↔ ¬ (isAlphabetic c = false ∧ c ≠ ':' ∧ c ≠ '_') := by
  have hcolon : c = ':' → colon = true := by
    rintro rfl
    exact h.eq_colon
  rw [isNameStart_eq_true_iff, Bool.eq_false_iff]
  tauto

theorem isNameChar_iff_of_isXmlChar (h : IsXmlChar colon c) :
    isNameChar colon c = true ↔ ¬ IsUnread c := by
  have hcolon : c = ':' → colon = true := by
    rintro rfl
    exact h.eq_colon
  rw [isNameChar_eq_true_iff, isNameStart_eq_true_iff, IsUnread, Bool.eq_false_iff,
    Bool.eq_false_iff]
  simp only [List.mem_cons, List.not_mem_nil, or_false]
  tauto

/-- A name of XML is read as a name here unless it has other characters than letters and
    numbers. -/
theorem isName_iff_of_isXmlName (h : IsXmlName colon s) : isName colon s = true ↔ ¬ HasUnread s := by
  match s, h with
  | c :: s, ⟨hc, hs⟩ =>
    rw [isName, HasUnread, Bool.and_eq_true, isNameStart_iff_of_isXmlStart hc, not_or, not_exists,
      List.all_eq_true]
    refine and_congr_right fun _ => forall_congr' fun d => ?_
    rw [not_and]
    exact imp_congr_right fun hd => isNameChar_iff_of_isXmlChar (hs d hd)

end XPathData.Text
