import XPathData.Error
import XPathData.Function.Overload
import XPathData.Text.Digits

/-! # Function tables

  A table holds the overloads of functions under their names, in the order in which
  calls try them. A call without a namespace is looked up twice: under the name as it
  is, where only an overload for exactly that number of arguments counts, and then in
  the default namespace.
-/

namespace XPathData

/-! ### Faults -/

/-- Why a call finds no function. -/
inductive CallFault where
  /-- No function has the name. -/
  | unknown (name : ExpandedName)
  /-- The function does not take that number of arguments. -/
  | arity (name : ExpandedName) (available : List Nat)
  deriving DecidableEq, Repr

namespace CallFault

/-- A number in decimal digits. -/
def countText (n : Nat) : String := String.ofList (Text.writeNat n)

/-- The message for a call with `n` arguments. -/
def message (n : Nat) : CallFault → String
  | unknown name => "unknown function " ++ name.text
  | arity name available =>
    "function " ++ name.text ++ " called with " ++ countText n ++
      " arguments; available arities: " ++ ", ".intercalate (available.map countText)

/-- The error for a call with `n` arguments. -/
def error (n : Nat) (f : CallFault) : Error := .ofCode .unknownFunction (f.message n)

end CallFault

/-! ### Tables -/

/-- Names with their overloads. -/
abbrev Listing (α : Type) := List (ExpandedName × List (Overload α))

namespace Listing

variable {α : Type}

/-- The overloads of a name. -/
def overloads (name : ExpandedName) : Listing α → List (Overload α)
  | [] => []
  | e :: l => if e.1 = name then e.2 else overloads name l

/-- Adds an overload behind those of its name, and puts them in order again. -/
def insert (name : ExpandedName) (o : Overload α) : Listing α → Listing α
  | [] => [(name, Overload.arrange [o])]
  | e :: l =>
    if e.1 = name then (name, Overload.arrange (e.2 ++ [o])) :: l else e :: insert name o l

theorem mem_names_insert {l : Listing α} {name n : ExpandedName} {o : Overload α}
    (h : n ∈ (insert name o l).map Prod.fst) : n = name ∨ n ∈ l.map Prod.fst := by
  induction l with
  | nil => exact .inl (List.mem_singleton.1 h)
  | cons e l ih =>
    rw [insert] at h
    split at h
    · exact (List.mem_cons.1 h).imp_right (List.mem_cons_of_mem _)
    · rcases List.mem_cons.1 h with rfl | h
      · exact .inr List.mem_cons_self
      · exact (ih h).imp_right (List.mem_cons_of_mem _)

/-- No name comes twice. -/
theorem nodup_names_insert {l : Listing α} {name : ExpandedName} {o : Overload α}
    (h : (l.map Prod.fst).Nodup) : ((insert name o l).map Prod.fst).Nodup := by
  induction l with
  | nil => exact List.pairwise_singleton _ _
  | cons e l ih =>
    obtain ⟨he, hl⟩ := List.nodup_cons.1 h
    rw [insert]
    split
    · next hname =>
      subst hname
      exact List.nodup_cons.2 ⟨he, hl⟩
    · next hname =>
      refine List.nodup_cons.2 ⟨fun hmem => ?_, ih hl⟩
      rcases mem_names_insert hmem with heq | hmem
      · exact hname heq
      · exact he hmem

theorem overloads_insert_self (name : ExpandedName) (o : Overload α) (l : Listing α) :
    overloads name (insert name o l) = Overload.arrange (overloads name l ++ [o]) := by
  induction l with
  | nil => exact if_pos rfl
  | cons e l ih =>
    rw [insert, overloads]
    split
    · exact if_pos rfl
    · next hname => rw [overloads, if_neg hname, ih]

theorem overloads_insert_ne {name other : ExpandedName} (o : Overload α) (h : other ≠ name)
    (l : Listing α) : overloads name (insert other o l) = overloads name l := by
  induction l with
  | nil => exact if_neg h
  | cons e l ih =>
    rw [insert]
    split
    · next hother =>
      subst hother
      rw [overloads, overloads, if_neg h, if_neg h]
    · rw [overloads, overloads, ih]

end Listing

/-- The functions that can be called. -/
structure FunctionTable (α : Type) where
  /-- Each name with its overloads, in the order in which calls try them. -/
  entries : Listing α
  /-- Every name is there once. -/
  nodup : (entries.map Prod.fst).Nodup
  deriving Repr

namespace FunctionTable

variable {α : Type}

/-- The table without functions. -/
def empty : FunctionTable α := ⟨[], .nil⟩

/-- Adds an overload. -/
def register (t : FunctionTable α) (name : ExpandedName) (o : Overload α) : FunctionTable α :=
  ⟨t.entries.insert name o, Listing.nodup_names_insert t.nodup⟩

/-- The overloads of a name, in the order in which calls try them. -/
def overloads (t : FunctionTable α) (name : ExpandedName) : List (Overload α) :=
  t.entries.overloads name

/-- The number of different names. -/
def size (t : FunctionTable α) : Nat := t.entries.length

/-- The table has no functions. -/
def isEmpty (t : FunctionTable α) : Bool := t.entries.isEmpty

/-- A name without a namespace in the default one, if there is one. -/
def effectiveName (defaultNamespace : Option String) (name : ExpandedName) : ExpandedName :=
  if name.uri.isSome then name else { name with uri := defaultNamespace }

/-- The function that a call of a name with `n` arguments means. -/
def resolve (t : FunctionTable α) (name : ExpandedName) (n : Nat)
    (defaultNamespace : Option String) : Except CallFault α :=
  -- A name as it is written comes before the one in the default namespace.
  match (t.overloads name).find? (·.isExactly n) with
  | some o => .ok o.function
  | none =>
    let effective := effectiveName defaultNamespace name
    match t.overloads effective with
    | [] => .error (.unknown effective)
    | l =>
      match l.find? (·.admits n) with
      | some o => .ok o.function
      | none => .error (.arity effective (Overload.arities l))

@[simp] theorem overloads_empty (name : ExpandedName) :
    (empty : FunctionTable α).overloads name = [] := rfl

@[simp] theorem overloads_register_self (t : FunctionTable α) (name : ExpandedName)
    (o : Overload α) : (t.register name o).overloads name =
      Overload.arrange (t.overloads name ++ [o]) :=
  Listing.overloads_insert_self name o t.entries

@[simp] theorem overloads_register_ne (t : FunctionTable α) {name other : ExpandedName}
    (o : Overload α) (h : other ≠ name) :
    (t.register other o).overloads name = t.overloads name :=
  Listing.overloads_insert_ne o h t.entries

end FunctionTable

end XPathData
