import XPathData.Proofs.Atomic.WellFormed
import XPathData.Proofs.Text.XmlName

/-! # Texts cast to names

  A text is cast to a type of names by its letters and numbers, not by the ranges of XML, with the
  white space around it left out. Where the two disagree, a text is cast that is no name of XML, or
  a name of XML is refused.

  * `Atomic.cast_names` — the cast of a text, whatever it is
  * `Atomic.names_by_letters` — what casts and the grammar of XML have in common
  * `Atomic.names_by_letters_apart` — two texts on which they disagree
-/

namespace XPathData

open Text

namespace StringKind

/-- The types whose values are names. -/
def isNames : StringKind → Bool
  | .name | .ncName | .id | .idref | .entity => true
  | _ => false

/-- The values may have colons. -/
def allowsColon (k : StringKind) : Bool := k == .name

end StringKind

namespace Atomic

/-- A text is cast to a type of names if it is a name when white space is collapsed. -/
theorem cast_names {k : StringKind} (hk : k.isNames = true) (s : String) (ctx : ValueContext) :
    (str s).cast (.string k) ctx =
      if isName k.allowsColon (collapseSpace s.toList) = true then
        .ok (string k (String.ofList (collapseSpace s.toList)))
      else .error (invalidForm s (.string k)) := by
  cases k <;> first | exact absurd hk (by decide) | exact cast_of_ne rfl nofun

theorem cast_names_eq_ok_iff {k : StringKind} {s : String} {a : Atomic} {ctx : ValueContext}
    (hk : k.isNames = true) :
    (str s).cast (.string k) ctx = .ok a ↔
      isName k.allowsColon (collapseSpace s.toList) = true ∧
        a = string k (String.ofList (collapseSpace s.toList)) := by
  rw [cast_names hk]
  split
  · next h => simp [h, eq_comm]
  · next h => simp [h]

/-- A text is cast to a name as it stands, without the white space around it, or refused for its
    form. A text that is cast is a name of XML unless it has a letter or a number that XML does not
    have there. A name of XML is cast unless it has a character that is neither a letter nor a
    number, nor one of the signs of names. -/
theorem names_by_letters (k : StringKind) (hk : k.isNames = true) (s : String)
    (ctx : ValueContext) :
    let w := collapseSpace s.toList
    let result := (str s).cast (.string k) ctx
    (result = .ok (string k (String.ofList w)) ∨ result = .error (invalidForm s (.string k))) ∧
    ((∃ a, result = .ok a) → (IsXmlName k.allowsColon w ↔ ¬ HasStray w)) ∧
    (IsXmlName k.allowsColon w → ((∃ a, result = .ok a) ↔ ¬ HasUnread w)) := by
  intro w result
  have hread : (∃ a, result = .ok a) ↔ isName k.allowsColon w = true := by
    constructor
    · rintro ⟨a, ha⟩
      exact ((cast_names_eq_ok_iff hk).1 ha).1
    · intro h
      exact ⟨_, (cast_names_eq_ok_iff hk).2 ⟨h, rfl⟩⟩
  refine ⟨?_, ?_, ?_⟩
  · by_cases h : isName k.allowsColon w = true
    · exact .inl ((cast_names hk s ctx).trans (if_pos h))
    · exact .inr ((cast_names hk s ctx).trans (if_neg h))
  · intro h
    exact isXmlName_iff_of_isName (hread.1 h)
  · intro h
    rw [hread]
    exact isName_iff_of_isXmlName h

/-- A letter that stands above the line is cast, though it is no name of XML. -/
theorem names_by_letters_above :
    let s := " ª "
    StringKind.isNames .ncName = true ∧
      ((∃ a, (str s).cast (.string .ncName) .standard = .ok a) ∧ HasStray (collapseSpace s.toList)) ∧
      ¬ IsXmlName false (collapseSpace s.toList) := by
  intro s
  have hcast : (str s).cast (.string .ncName) .standard = .ok (string .ncName "ª") := by
    decide +kernel
  have hw : collapseSpace s.toList = ['ª'] := by decide +kernel
  have hstray : HasStray (collapseSpace s.toList) := by
    rw [hw]
    exact .inl (by decide)
  refine ⟨rfl, ⟨⟨_, hcast⟩, hstray⟩, fun h => ?_⟩
  exact ((names_by_letters .ncName rfl s .standard).2.1 ⟨_, hcast⟩).1 h hstray

/-- A letter above the line is cast to a name, and a letter with an accent of its own is not. The
    first one is no name of XML, and the second one is. -/
theorem names_by_letters_apart :
    let read (s : String) := ∃ a, (str s).cast (.string .ncName) .standard = .ok a
    read "ª" ∧ ¬ IsXmlName false (collapseSpace "ª".toList) ∧
      ¬ read "e\u0301" ∧ IsXmlName false (collapseSpace "e\u0301".toList) ∧
      ¬ ∀ s : String, read s ↔ IsXmlName false (collapseSpace s.toList) := by
  intro read
  have hread : read "ª" := ⟨string .ncName "ª", by decide +kernel⟩
  have hfirst : collapseSpace "ª".toList = ['ª'] := by decide +kernel
  have hother : ¬ IsXmlName false (collapseSpace "ª".toList) := by
    rw [hfirst]
    rintro ⟨h, -⟩
    rcases h with ⟨h, -⟩ | h
    · cases h
    · exact absurd h (by decide)
  have hrefused : (str "e\u0301").cast (.string .ncName) .standard =
      .error (invalidForm "e\u0301" (.string .ncName)) := by decide +kernel
  have hsecond : collapseSpace "e\u0301".toList = ['e', '\u0301'] := by decide +kernel
  have hname : IsXmlName false (collapseSpace "e\u0301".toList) := by
    rw [hsecond]
    refine ⟨.inr (by decide), fun d hd => ?_⟩
    obtain rfl := List.mem_singleton.1 hd
    exact .inr (by decide)
  refine ⟨hread, hother, ?_, hname, fun hall => hother ((hall "ª").1 hread)⟩
  rintro ⟨a, ha⟩
  rw [hrefused] at ha
  cases ha

end Atomic

end XPathData
