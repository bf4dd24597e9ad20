import XPathData.Sequence.Atomize

/-! # Coercions

  Casting, treating and the tests that belong to them look at the number of items
  first: a sequence that is read while it is counted goes through a buffer, so that
  its producers are asked once. What becomes of the single items is found out when
  the result is read.
-/

namespace XPathData

namespace Stream

/-! ### The number of items -/

/-- Checks the number of items against an occurrence as far as that needs to be read, and
    gives a stream that reads the same items again. -/
def gate (t : Stream) (occ : Occurrence) (code : ErrorCode) : Fetch Stream := do
  let b ← t.buffered
  match ← b.cursor.restart.fetch with
  | (none, _) =>
    if occ.allowsEmpty then return empty
    else throw (.cardinality code
      ("empty sequence is not allowed for occurrence '" ++ occ.name ++ "'"))
  | (some _, c) =>
    -- One item shows that there is one; the number matters no more.
    if occ.allowsMany then return b
    -- A second item decides, whatever follows it.
    match ← c.fetch with
    | (none, _) => return b
    | (some _, _) =>
      throw (.cardinality code "sequence of more than one item is not allowed")

/-- The empty stream, if the sequence has no items. -/
def requireEmpty (t : Stream) (code : ErrorCode) : Fetch Stream := do
  if ← t.isEmpty then return empty
  else throw (.cardinality code "expected empty-sequence()")

/-! ### Single items -/

/-- What an item is, in messages. -/
def describe (F : Forest) : Item → String
  | .node n => (F.node n).kind.name ++ " node"
  | .atomic a => a.type.text

/-- An item that is what the type asks for, or else an error. -/
def checkItem (F : Forest) (type : ItemType) (code : ErrorCode) (x : Item) : Entry :=
  if type.admits F x then .ok x
  else .error (.ofCode code ("expected " ++ type.text ++ ", found " ++ describe F x))

/-- Casts a value. Only a literal makes a string into a name. -/
def castValue (a : Atomic) (target : AtomicType) (literal : Bool) (ctx : ValueContext) :
    Except Error Atomic :=
  if (target = .qName || target = .notationName) && !literal
      && (a.type = .untypedAtomic || a.type = .string .string) then
    .error (.ofCode .typeError ("only a string literal can be cast to " ++ target.text ++
      ", got " ++ a.type.text))
  else a.cast target ctx

/-- Casts an item that is a value. -/
def castItem (target : AtomicType) (literal : Bool) (ctx : ValueContext) : Item → Entry
  | .atomic a => (castValue a target literal ctx).map .atomic
  | .node _ => .error (.ofCode .unidentified "atomization produced a node")

/-! ### Casting -/

/-- Casts the atomic values of the only item, if there is one. -/
def castSingle (F : Forest) (t : Stream) (target : AtomicType) (occ : Occurrence) (literal : Bool)
    (ctx : ValueContext) : Fetch Stream := do
  match ← t.first with
  | none => return t
  | some x =>
    match ← liftM (x.atomize F) with
    | [] =>
      if occ.allowsEmpty then return empty
      else throw (.cardinality .typeError "cast of an empty atomized value")
    | [a] => return single (.atomic (← liftM (castValue a target literal ctx)))
    | _ => throw (.cardinality .typeError "atomized value has more than one item")

/-- Casts a sequence to a type. Where many items are allowed they are cast when they are
    read; types of nodes and items are only checked. -/
def cast (F : Forest) (t : Stream) (target : SequenceType) (literal : Bool)
    (ctx : ValueContext) : Fetch Stream :=
  match target with
  | .empty => t.requireEmpty .typeError
  | .items type occ => do
    let gated ← t.gate occ .typeError
    match type with
    | .atomic a =>
      if occ.allowsMany then return (gated.atomize F).map (castItem a literal ctx)
      else castSingle F gated a occ literal ctx
    | _ => return gated.map (checkItem F type .typeError)

/-- A cast to the type succeeds for all items. -/
def castable (F : Forest) (t : Stream) (target : SequenceType) (literal : Bool)
    (ctx : ValueContext) : Fetch Bool :=
  tryCatch (do
    discard (← t.cast F target literal ctx).toList
    return true) fun _ => return false

/-! ### Treating -/

/-- The same sequence, with each item checked against the type when it is read. -/
def treat (F : Forest) (t : Stream) (target : SequenceType) : Fetch Stream :=
  match target with
  | .empty => t.requireEmpty .treatFailed
  | .items type occ => do
    let gated ← t.gate occ .treatFailed
    if type = .item then return gated
    return gated.map (checkItem F type .treatFailed)

/-! ### Matching -/

/-- A sequence has a type; reading stops at the first item that decides. -/
def hasType (F : Forest) (t : Stream) (target : SequenceType) : Fetch Bool :=
  match target with
  | .empty => do return (← t.cursor.restart.fetch).1.isNone
  | .items type occ =>
    t.cursor.restart.readItems id
      (fun count x =>
        if !type.admits F x || (1 ≤ count && !occ.allowsMany) then .stop (.ok false)
        else .more (count + 1))
      occ.admits 0

/-- A sequence is an instance of a type. A number of items that the type does not allow
    makes the answer false. -/
def instanceOf (F : Forest) (t : Stream) (target : SequenceType) : Fetch Bool :=
  match target with
  | .empty => t.isEmpty
  | .items _ occ => fun s =>
    match t.gate occ .typeError s with
    | (.ok gated, s) => gated.hasType F target s
    | (.error e, s) =>
      if e.kind = .cardinalityViolation then (.ok false, s) else (.error e, s)

end Stream

end XPathData
