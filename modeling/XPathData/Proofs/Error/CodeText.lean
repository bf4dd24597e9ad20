import Mathlib.Data.List.Infix
import XPathData.Error
import XPathData.Proofs.Text.Digits

/-! # Error codes as text

  A code is written in one of three forms: with the prefix of the standard codes, with its
  namespace in braces, or bare. The first two forms are looked for at the start of the text and
  everything else is a bare name, so that every text has one reading; a namespace ends at the
  first closing brace. A code is read back exactly if its namespace has no such brace in it or,
  where there is no namespace, if its name has neither of the first two forms.

  * `Error.CodeText` — the three forms and the codes that they stand for
  * `Error.parseCode_eq_iff` — what is read
  * `Error.parseCode_formatCode_iff` — which codes are read back
  * `Error.codes_survive_text` — names that are read back, and readings that always are
-/

namespace XPathData

/-! ### Cutting -/

namespace Text

theorem dropLead?_eq_some_iff {lead s rest : List Char} :
    dropLead? lead s = some rest ↔ s = lead ++ rest := by
  constructor
  · intro h
    exact (List.append_eq_of_isPrefixOf?_eq_some h).symm
  · rintro rfl
    exact dropLead?_append lead rest

end Text

namespace Error

open Text

variable {s uri : String} {code : ExpandedName}

/-! ### Forms -/

/-- The text starts with the prefix of the standard codes. -/
def IsPrefixed (s : String) : Prop := "err:".toList <+: s.toList

/-- The text is a namespace in braces with something behind it. -/
def IsBraced (s : String) : Prop := ∃ uri localName, s = ExpandedName.braced uri localName

/-- A text and the code that it stands for. -/
inductive CodeText : String → ExpandedName → Prop where
  | standard (localName : String) :
    CodeText ("err:" ++ localName) ⟨some Namespace.errors, localName⟩
  | braced {uri : String} (huri : '\x7d' ∉ uri.toList) (localName : String) :
    CodeText (ExpandedName.braced uri localName) ⟨some uri, localName⟩
  | bare {s : String} (hprefixed : ¬ IsPrefixed s) (hbraced : ¬ IsBraced s) : CodeText s ⟨none, s⟩

theorem toList_braced (uri localName : String) :
    (ExpandedName.braced uri localName).toList =
      "Q\x7b".toList ++ (uri.toList ++ '\x7d' :: localName.toList) := by
  simp [ExpandedName.braced]

theorem eq_braced {front back : List Char}
    (h : s.toList = "Q\x7b".toList ++ (front ++ '\x7d' :: back)) :
    s = ExpandedName.braced (String.ofList front) (String.ofList back) := by
  apply String.toList_injective
  rw [toList_braced, @String.toList_ofList front, @String.toList_ofList back, h]

/-- A bare name that starts like a namespace in braces would have to have a closing brace. -/
theorem not_isBraced (h : ¬ "Q\x7b".toList <+: s.toList) : ¬ IsBraced s := by
  rintro ⟨uri, localName, rfl⟩
  exact h (toList_braced uri localName ▸ List.prefix_append _ _)

/-! ### Reading -/

theorem parseCode_prefixed (localName : String) :
    parseCode ("err:" ++ localName) = ⟨some Namespace.errors, localName⟩ := by
  rw [parseCode, String.toList_append, dropLead?_append]
  simp only [String.ofList_toList]

theorem dropLead?_prefix (h : ¬ IsPrefixed s) : dropLead? "err:".toList s.toList = none := by
  rw [Option.eq_none_iff_forall_ne_some]
  intro rest hrest
  exact h ⟨rest, (dropLead?_eq_some_iff.1 hrest).symm⟩

theorem parseCode_braced (huri : '\x7d' ∉ uri.toList) (localName : String) :
    parseCode (ExpandedName.braced uri localName) = ⟨some uri, localName⟩ := by
  have hprefixed : ¬ IsPrefixed (ExpandedName.braced uri localName) := by
    rintro ⟨rest, hrest⟩
    rw [toList_braced] at hrest
    cases hrest
  have hcut : (dropLead? "Q\x7b".toList (ExpandedName.braced uri localName).toList).bind
      (splitFirst '\x7d') = some (uri.toList, localName.toList) := by
    rw [toList_braced, dropLead?_append, Option.bind_some, splitFirst_append huri]
  simp only [parseCode, dropLead?_prefix hprefixed, hcut, String.ofList_toList]

theorem parseCode_bare (hprefixed : ¬ IsPrefixed s) (hbraced : ¬ IsBraced s) :
    parseCode s = ⟨none, s⟩ := by
  have hcut : (dropLead? "Q\x7b".toList s.toList).bind (splitFirst '\x7d') = none := by
    rw [Option.eq_none_iff_forall_ne_some]
    rintro ⟨front, back⟩ hcut
    obtain ⟨rest, hrest, hsplit⟩ := Option.bind_eq_some_iff.1 hcut
    rw [dropLead?_eq_some_iff, splitFirst_eq_some hsplit] at hrest
    exact hbraced ⟨_, _, eq_braced hrest⟩
  simp only [parseCode, dropLead?_prefix hprefixed, hcut]

/-- Every text has one of the forms. -/
theorem exists_codeText (s : String) : ∃ code, CodeText s code := by
  by_cases hprefixed : IsPrefixed s
  · obtain ⟨rest, hrest⟩ := hprefixed
    have hs : s = "err:" ++ String.ofList rest := by
      apply String.toList_injective
      rw [String.toList_append, @String.toList_ofList rest, hrest]
    rw [hs]
    exact ⟨_, .standard (String.ofList rest)⟩
  · by_cases hbraced : IsBraced s
    · -- The namespace ends at the first brace, wherever the text was put together.
      obtain ⟨uri, localName, rfl⟩ := hbraced
      have hmem : '\x7d' ∈ uri.toList ++ '\x7d' :: localName.toList := by simp
      obtain ⟨front, back, hcut, hfront⟩ := List.eq_append_cons_of_mem hmem
      have hs : ExpandedName.braced uri localName =
          ExpandedName.braced (String.ofList front) (String.ofList back) :=
        eq_braced (by rw [toList_braced, hcut])
      rw [hs]
      exact ⟨_, .braced (by rwa [String.toList_ofList]) (String.ofList back)⟩
    · exact ⟨_, .bare hprefixed hbraced⟩

theorem CodeText.parseCode_eq (h : CodeText s code) : parseCode s = code := by
  cases h with
  | standard localName => exact parseCode_prefixed localName
  | braced huri localName => exact parseCode_braced huri localName
  | bare hprefixed hbraced => exact parseCode_bare hprefixed hbraced

/-- Reading finds the form of a text. -/
theorem parseCode_eq_iff : parseCode s = code ↔ CodeText s code := by
  constructor
  · rintro rfl
    obtain ⟨code, h⟩ := exists_codeText s
    rwa [h.parseCode_eq]
  · exact CodeText.parseCode_eq

/-! ### Writing -/

/-- A code that its text tells from the codes of other forms. -/
def IsTold (code : ExpandedName) : Prop :=
  match code.uri with
  | some uri => '\x7d' ∉ uri.toList
  | none => ¬ IsPrefixed code.localName ∧ ¬ IsBraced code.localName

theorem CodeText.isTold (h : CodeText s code) : IsTold code := by
  cases h with
  | standard localName =>
    show '\x7d' ∉ Namespace.errors.toList
    decide
  | braced huri localName => exact huri
  | bare hprefixed hbraced => exact ⟨hprefixed, hbraced⟩

/-- What is told is written in a form that stands for it. -/
theorem IsTold.codeText (h : IsTold code) : CodeText (formatCode code) code := by
  obtain ⟨uri?, localName⟩ := code
  cases uri? with
  | none => exact .bare h.1 h.2
  | some uri =>
    show CodeText (if uri = Namespace.errors then _ else _) _
    split
    · next herrors =>
      rw [herrors]
      exact .standard localName
    · exact .braced h localName

/-- The codes that are read back are those that are told. -/
theorem parseCode_formatCode_iff : parseCode (formatCode code) = code ↔ IsTold code := by
  rw [parseCode_eq_iff]
  exact ⟨CodeText.isTold, IsTold.codeText⟩

/-- A code with a namespace that has no closing brace in it is read back, whatever its local name
    is, and so is a code without a namespace whose name starts neither like a standard code nor
    like a namespace in braces. What any text is read as is read back when it is written. -/
theorem codes_survive_text :
    (∀ uri localName : String, '\x7d' ∉ uri.toList →
      parseCode (formatCode ⟨some uri, localName⟩) = ⟨some uri, localName⟩) ∧
    (∀ localName : String,
      ¬ "err:".toList <+: localName.toList → ¬ "Q\x7b".toList <+: localName.toList →
        parseCode (formatCode ⟨none, localName⟩) = ⟨none, localName⟩) ∧
    ∀ s : String, parseCode (formatCode (parseCode s)) = parseCode s := by
  refine ⟨?_, ?_, ?_⟩
  · intro uri localName huri
    exact parseCode_formatCode_iff.2 huri
  · intro localName hprefixed hlead
    exact parseCode_formatCode_iff.2 ⟨hprefixed, not_isBraced hlead⟩
  · intro s
    have htext : CodeText s (parseCode s) := parseCode_eq_iff.1 rfl
    exact parseCode_formatCode_iff.2 htext.isTold

/-- An empty namespace and a local name with braces; a name that the prefix stands inside of; and
    a text with two closing braces, of which the first one counts. -/
theorem codes_survive_text_with_braces :
    '\x7d' ∉ "".toList ∧ parseCode (formatCode ⟨some "", "a\x7db"⟩) = ⟨some "", "a\x7db"⟩ ∧
      ¬ "err:".toList <+: "xerr:a".toList ∧ ¬ "Q\x7b".toList <+: "xerr:a".toList ∧
      parseCode (formatCode ⟨none, "xerr:a"⟩) = ⟨none, "xerr:a"⟩ ∧
      parseCode "Q\x7bu\x7dv\x7dw" = ⟨some "u", "v\x7dw"⟩ ∧
      parseCode (formatCode (parseCode "Q\x7bu\x7dv\x7dw")) = ⟨some "u", "v\x7dw"⟩ := by
  obtain ⟨hnamespace, hbare, hreading⟩ := codes_survive_text
  have huri : '\x7d' ∉ "".toList := by decide
  have hprefixed : ¬ "err:".toList <+: "xerr:a".toList := by decide
  have hlead : ¬ "Q\x7b".toList <+: "xerr:a".toList := by decide
  have hread : parseCode "Q\x7bu\x7dv\x7dw" = ⟨some "u", "v\x7dw"⟩ :=
    @parseCode_braced "u" (by decide) "v\x7dw"
  exact ⟨huri, hnamespace "" _ huri, hprefixed, hlead, hbare _ hprefixed hlead, hread,
    (hreading _).trans hread⟩

end Error

end XPathData
