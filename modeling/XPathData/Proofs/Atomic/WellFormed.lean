import XPathData.Proofs.Atomic.FromText
import XPathData.Proofs.Duration.RoundTrip
import XPathData.Proofs.Text.Base64
import XPathData.Proofs.Text.Space

/-! # Well-formed values

  The types of strings, integers, durations, fragments and bytes leave out some of what their
  values could hold. A value is well-formed if it has nothing of that. Whatever a cast makes is
  well-formed, and a value that stays as it is remains so.

  * `Atomic.WellFormed` — the value lies in the value space of its type
  * `Atomic.gives_convert_wellFormed` — conversion, target by target
  * `Atomic.cast_wellFormed` — casting
-/

namespace XPathData

open Text

/-! ### Value spaces -/

namespace IntegerKind

/-- The least integer of a type. -/
def least (k : IntegerKind) : Int := if k = .positiveInteger then 1 else k.low

/-- The greatest integer of a type. -/
def greatest : IntegerKind → Int
  | nonPositiveInteger => 0
  | negativeInteger => -1
  | k => k.high

/-- The bounds of a type are those of what it can hold, together with its sign. -/
theorem admits_iff {k : IntegerKind} {n : Int} (h : k.low ≤ n ∧ n ≤ k.high) :
    k.admits n = true ↔ k.least ≤ n ∧ n ≤ k.greatest := by
  cases k <;> simp [admits, least, greatest, low, high] at * <;> omega

/-- What lies in the bounds of a type can be held. -/
theorem word_of_bounds {k : IntegerKind} {n : Int} (h : k.least ≤ n ∧ n ≤ k.greatest) :
    k.low ≤ n ∧ n ≤ k.high := by
  cases k <;> simp [least, greatest, low, high] at * <;> omega

end IntegerKind

/-- A text that a string type has among its values. -/
def StringKind.Has (k : StringKind) (s : List Char) : Prop :=
  match k with
  | .string => True
  | .normalizedString => '\t' ∉ s ∧ '\n' ∉ s ∧ '\r' ∉ s
  | _ => IsCollapsed s ∧ Atomic.isForm k s = true

/-- The local part and the prefix, if there is one, are names without colons. -/
def QName.IsNamed (q : QName) : Prop :=
  isNCName q.localName.toList = true ∧ ∀ p ∈ q.nsPrefix, isNCName p.toList = true

namespace Atomic

/-- The value lies in the value space of its type. -/
def WellFormed : Atomic → Prop
  | string k s => k.Has s.toList
  | integer k n => k.least ≤ n.val ∧ n.val ≤ k.greatest
  | duration months seconds => DurationLiteral.OneSign months.val seconds
  | fragment f _ => f.Proper
  | hexBinary s => s.toList.length % 2 = 0 ∧ ∀ c ∈ s.toList, Hex.IsCapital c
  | base64Binary s => (Base64.decode? s.toList).isSome = true
  | anyURI s => IsCollapsed s.toList
  | qName q => q.IsNamed
  | _ => True

end Atomic

/-- Every value of the type is well-formed. -/
def AtomicType.isUnrestricted : AtomicType → Bool
  | string k => k = .string
  | integer _ | duration | fragment _ | hexBinary | base64Binary | anyURI | qName => false
  | _ => true

theorem Atomic.wellFormed_of_type {a : Atomic} (h : a.type.isUnrestricted = true) :
    a.WellFormed := by
  cases a with
  | string k s =>
    obtain rfl : k = .string := of_decide_eq_true h
    trivial
  | integer k n => cases h
  | duration m s => cases h
  | fragment f zone => cases h
  | hexBinary s => cases h
  | base64Binary s => cases h
  | anyURI s => cases h
  | qName q => cases h
  | _ => trivial

/-! ### Texts -/

namespace StringKind

variable {s : List Char}

/-- Without tabs and line ends a space is the only white space. -/
theorem has_normalizedString_iff :
    normalizedString.Has s ↔ ∀ c ∈ s, isXmlSpace c = true → c = ' ' := by
  constructor
  · rintro ⟨htab, hfeed, hreturn⟩ c hc hspace
    have hblank : c = ' ' ∨ c = '\t' ∨ c = '\n' ∨ c = '\r' := by
      simpa [isXmlSpace, or_assoc] using hspace
    rcases hblank with rfl | rfl | rfl | rfl
    · rfl
    · exact absurd hc htab
    · exact absurd hc hfeed
    · exact absurd hc hreturn
  · intro h
    have hno (c : Char) (hspace : isXmlSpace c = true) (hne : c ≠ ' ') : c ∉ s :=
      fun hc => hne (h c hc hspace)
    exact ⟨hno '\t' rfl (by decide), hno '\n' rfl (by decide), hno '\r' rfl (by decide)⟩

/-- A text whose white space is normalized is one of the type if it has the form. -/
theorem has_normalizeSpace {k : StringKind}
    (h : Atomic.isForm k (Atomic.normalizeSpace k s) = true) :
    k.Has (Atomic.normalizeSpace k s) := by
  cases k with
  | string => trivial
  | normalizedString => exact has_normalizedString_iff.2 (onlySpaces_replaceSpace s)
  | _ => exact ⟨isCollapsed_collapseSpace s, h⟩

/-- The white space of a text of the type is normalized, and the text has the form. -/
theorem Has.normalizeSpace_eq {k : StringKind} (h : k.Has s) :
    Atomic.normalizeSpace k s = s ∧ Atomic.isForm k s = true := by
  cases k with
  | string => exact ⟨rfl, rfl⟩
  | normalizedString => exact ⟨replaceSpace_eq_self (has_normalizedString_iff.1 h), rfl⟩
  | _ => exact ⟨h.1.collapseSpace_eq, h.2⟩

end StringKind

/-- The parts of a name that is read are names without colons. -/
theorem readQName?_eq_some {s l : List Char} {p : Option (List Char)}
    (h : readQName? s = some (p, l)) :
    isNCName l = true ∧ ∀ q ∈ p, isNCName q = true := by
  unfold readQName? at h
  split at h
  · split at h
    · next hnames =>
      cases h
      rw [Bool.and_eq_true] at hnames
      exact ⟨hnames.2, by simpa using hnames.1⟩
    · cases h
  · split at h
    · next hname =>
      cases h
      exact ⟨hname, by simp⟩
    · cases h

/-! ### What casts make -/

namespace Atomic

theorem gives_castString_wellFormed (text : String) (k : StringKind) :
    Gives (castString text k) WellFormed := by
  unfold castString
  dsimp only
  split
  · next hform =>
    refine Gives.ok ?_
    show k.Has (String.ofList _).toList
    rw [String.toList_ofList]
    exact StringKind.has_normalizeSpace hform
  · exact Gives.error _

theorem gives_ofInteger_wellFormed (n : Int) (k : IntegerKind) :
    Gives (ofInteger n k) WellFormed := by
  unfold ofInteger
  dsimp only
  split
  · next hadmits =>
    refine Gives.map_of (gives_orThrow (p := fun m : k.Word => m.val = n) fun m hm => ?_)
      fun m hm => ?_
    · exact Bounded.ofInt?_eq_some_iff.1 hm
    · show k.least ≤ m.val ∧ m.val ≤ k.greatest
      exact (IntegerKind.admits_iff ⟨m.low_le, m.le_high⟩).1 (hm ▸ hadmits)
  · exact Gives.error _

/-- A text of a string type is cast to that type as it is. -/
theorem castString_of_has {k : StringKind} {s : String} (h : k.Has s.toList) :
    castString s k = .ok (string k s) := by
  unfold castString
  dsimp only
  rw [h.normalizeSpace_eq.1, if_pos h.normalizeSpace_eq.2, String.ofList_toList]

/-- An integer in the bounds of a type is one of its values. -/
theorem exists_ofInteger {k : IntegerKind} {n : Int} (h : k.least ≤ n ∧ n ≤ k.greatest) :
    ∃ m : k.Word, m.val = n ∧ ofInteger n k = .ok (integer k m) := by
  obtain ⟨hlow, hhigh⟩ := IntegerKind.word_of_bounds h
  have hword : (Bounded.ofInt? n : Option k.Word) = some ⟨n, hlow, hhigh⟩ :=
    Bounded.ofInt?_eq_some_iff.2 rfl
  refine ⟨⟨n, hlow, hhigh⟩, rfl, ?_⟩
  unfold ofInteger
  dsimp only
  rw [if_pos ((IntegerKind.admits_iff ⟨hlow, hhigh⟩).2 h), hword]
  rfl

/-- The parts of a value are not of different signs, unless those of a general duration are. -/
theorem gives_durationParts_oneSign (a : Atomic) (target : AtomicType)
    (ha : a.type = .duration → a.WellFormed) :
    Gives (durationParts a target) fun p => DurationLiteral.OneSign p.1.val p.2 := by
  unfold durationParts
  split
  · exact Gives.ok (ha rfl)
  · next m => exact Gives.ok ((le_total 0 m.val).imp (⟨·, le_refl 0⟩) (⟨·, le_refl 0⟩))
  · next s => exact Gives.ok ((le_total 0 s.coefficient).imp (⟨le_refl 0, ·⟩) (⟨le_refl 0, ·⟩))
  · refine Gives.bind_of (gives_castLiteral a target (gives_readDuration target))
      fun (months, seconds) hparts => ?_
    refine Gives.bind_of (gives_orThrow (p := fun m : Signed32 => m.val = months) fun m hm => ?_)
      fun m hm => Gives.ok ?_
    · exact Bounded.ofInt?_eq_some_iff.1 hm
    · show DurationLiteral.OneSign m.val seconds
      rw [hm]
      exact hparts.oneSign

theorem gives_castDuration_wellFormed (a : Atomic) (target : AtomicType)
    (ha : a.type = .duration → a.WellFormed) : Gives (castDuration a target) WellFormed := by
  refine Gives.bind_of (gives_durationParts_oneSign a target ha) fun (months, seconds) hp => ?_
  dsimp only
  split
  · exact Gives.ok trivial
  · exact Gives.ok trivial
  · exact Gives.ok hp

theorem gives_castFragment_wellFormed (a : Atomic) (k : FragmentKind) :
    Gives (castFragment a k) WellFormed := by
  intro b hb
  have hformed := gives_castFragment_formed a k b hb
  have htype := gives_castFragment a k b hb
  cases b with
  | fragment f zone => exact hformed
  | _ => cases htype

theorem gives_castQName_wellFormed (a : Atomic) (ctx : ValueContext) :
    Gives (castQName a ctx) WellFormed := by
  unfold castQName
  split
  · exact Gives.error _
  · next text htext =>
    split
    · exact Gives.error _
    · next l hname =>
      obtain ⟨hl, -⟩ := readQName?_eq_some hname
      exact Gives.ok ⟨by rwa [QName.unprefixed, String.toList_ofList], by simp [QName.unprefixed]⟩
    · next p l hname =>
      obtain ⟨hl, hp⟩ := readQName?_eq_some hname
      dsimp only
      split
      · refine Gives.ok ⟨by rwa [String.toList_ofList], ?_⟩
        simpa using hp p rfl
      · exact Gives.error _

/-- A conversion from another type makes a well-formed value. -/
theorem gives_convert_wellFormed (a : Atomic) (target : AtomicType) (ctx : ValueContext)
    (ha : a.type ≠ target) : Gives (a.convert target ctx) WellFormed := by
  by_cases hfree : target.isUnrestricted = true
  · -- The type alone is enough here.
    intro b hb
    have htype := gives_convert a target ctx b hb
    exact wellFormed_of_type (htype ▸ hfree)
  · cases target with
    | string k => exact gives_castString_wellFormed a.text k
    | integer k => exact Gives.bind fun n => gives_ofInteger_wellFormed n k
    | duration => exact gives_castDuration_wellFormed a .duration fun h => absurd h ha
    | fragment k => exact gives_castFragment_wellFormed a k
    | hexBinary =>
      refine Gives.map fun bytes => ?_
      show (String.ofList _).toList.length % 2 = 0 ∧ ∀ c ∈ (String.ofList _).toList, _
      rw [String.toList_ofList, Hex.length_encode]
      exact ⟨Nat.mul_mod_right 2 _, Hex.isCapital_of_mem_encode⟩
    | base64Binary =>
      refine Gives.map fun bytes => ?_
      show (Base64.decode? (String.ofList _).toList).isSome = true
      rw [String.toList_ofList, Base64.decode?_encode]
      rfl
    | anyURI =>
      simp only [convert]
      split
      · next s hs =>
        refine Gives.ok ?_
        show IsCollapsed (String.ofList _).toList
        rw [String.toList_ofList]
        exact isCollapsed_collapseSpace _
      · exact Gives.error _
    | qName => exact gives_castQName_wellFormed a ctx
    | _ => exact absurd rfl hfree

/-- A value of the target stays as it is. -/
theorem cast_self {a : Atomic} {target : AtomicType} {ctx : ValueContext}
    (htarget : target.isAbstract = false) (ha : a.type = target) : a.cast target ctx = .ok a := by
  unfold cast
  rw [htarget, if_neg Bool.false_ne_true, if_pos ha]

theorem cast_of_ne {a : Atomic} {target : AtomicType} {ctx : ValueContext}
    (htarget : target.isAbstract = false) (ha : a.type ≠ target) :
    a.cast target ctx = a.convert target ctx := by
  unfold cast
  rw [htarget, if_neg Bool.false_ne_true, if_neg ha]

/-- A cast makes a well-formed value, also where it leaves a well-formed value as it is. -/
theorem gives_cast_wellFormed (a : Atomic) (target : AtomicType) (ctx : ValueContext)
    (ha : a.type = target → a.WellFormed) : Gives (a.cast target ctx) WellFormed := by
  unfold cast
  split
  · exact Gives.error _
  · split
    · next htype => exact Gives.ok (ha htype)
    · next htype => exact gives_convert_wellFormed a target ctx htype

/-- A cast makes a value that has just the target as its type and lies in its value space. Only a
    value that has the type already has to lie there before. -/
theorem cast_wellFormed {a w : Atomic} {target : AtomicType} {ctx : ValueContext}
    (ha : a.type = target → a.WellFormed) (h : a.cast target ctx = .ok w) :
    w.type = target ∧ w.WellFormed := by
  constructor
  · exact gives_cast a target ctx w h
  · exact gives_cast_wellFormed a target ctx ha w h

theorem cast_wellFormed_token :
    let text : Atomic := .untyped " a\n\t b\x0d"
    let token : Atomic := .string .token "a b"
    (text.type = .string .token → text.WellFormed) ∧
      text.cast (.string .token) .standard = .ok token ∧ token.type = .string .token ∧
      token.WellFormed := by
  intro text token
  have htext : text.type = .string .token → text.WellFormed := nofun
  have hcast : text.cast (.string .token) .standard = .ok token := by decide +kernel
  exact ⟨htext, hcast, cast_wellFormed htext hcast⟩

end Atomic

end XPathData
