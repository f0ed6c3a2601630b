import DesktopAgent.Wire.Decoder

/-!
Readers of records with named fields.

A record is written as an object, or as an array of its fields in order. Of an object the members
are read in the order of their keys, so the first bad one is reported; unknown keys are passed over,
and a field that is absent is reported after that. An array must have exactly the fields.
-/

namespace DesktopAgent.Wire

/-- A reader of records. `check` reads the member of a key when it is a field; `fromMembers` builds
the record from members that pass the check; `fromItems` builds it from the array's items, counted
from a position, and leaves the rest. -/
structure Record (α : Type) where
  count : Nat
  check : String → Source → Json → Except DecodeError Unit
  fromMembers : Source → List (String × Json) → Except DecodeError α
  fromItems : Source → (Nat → DecodeError) → Nat → List Json → Except DecodeError (α × List Json)

namespace Record

variable {α β : Type}

def item (decode : Decoder α) (source : Source) (short : Nat → DecodeError) (position : Nat) :
    List Json → Except DecodeError (α × List Json)
  | [] => .error (short position)
  | value :: rest => (decode source value).map fun a => (a, rest)

/-- A field that must be present. -/
def field (name : String) (decode : Decoder α) : Record α where
  count := 1
  check key source value := if key = name then (decode source value).map fun _ => () else .ok ()
  fromMembers source members :=
    match Json.lookup name members with
    | some value => decode source value
    | none => .error (.missingField name)
  fromItems := item decode

/-- A field that may be null, or absent from an object. -/
def optionalField (name : String) (decode : Decoder α) : Record (Option α) where
  count := 1
  check key source value :=
    if key = name then (optional decode source value).map fun _ => () else .ok ()
  fromMembers source members :=
    match Json.lookup name members with
    | some value => optional decode source value
    | none => .ok none
  fromItems := item (optional decode)

/-- The record without fields. -/
def fixed (value : α) : Record α where
  count := 0
  check _ _ _ := .ok ()
  fromMembers _ _ := .ok value
  fromItems _ _ _ items := .ok (value, items)

/-- The fields of both records, those of the first one first. -/
def apply (build : Record (α → β)) (argument : Record α) : Record β where
  count := build.count + argument.count
  check key source value := do
    build.check key source value
    argument.check key source value
  fromMembers source members := do
    let f ← build.fromMembers source members
    let a ← argument.fromMembers source members
    return f a
  fromItems source short position items := do
    let (f, rest) ← build.fromItems source short position items
    let (a, rest) ← argument.fromItems source short (position + build.count) rest
    return (f a, rest)

/-- Transforms what is read. -/
def map (f : α → β) (record : Record α) : Record β where
  count := record.count
  check := record.check
  fromMembers source members := (record.fromMembers source members).map f
  fromItems source short position items :=
    (record.fromItems source short position items).map fun (a, rest) => (f a, rest)

instance : Functor Record where
  map := map

instance : Seq Record where
  seq build argument := build.apply (argument ())

/-- Reads a record from the members of an object. -/
def ofMembers (record : Record α) (source : Source) (members : List (String × Json)) :
    Except DecodeError α := do
  members.forM fun (key, value) => record.check key source value
  record.fromMembers source members

def leftover (source : Source) (length count : Nat) : DecodeError :=
  match source with
  | .direct => .wrongLength length .fewerItems
  | .held => .wrongLength length (.itemsInSequence count)

def ofItems (record : Record α) (whole : Expectation) (source : Source) (items : List Json) :
    Except DecodeError α := do
  let short position := .wrongLength position (.withElements whole record.count)
  let (value, rest) ← record.fromItems source short 0 items
  if rest.isEmpty then return value else throw (leftover source items.length record.count)

def decoder (name : String) (record : Record α) : Decoder α
  | source, .object members => record.ofMembers source members
  | source, .array items => record.ofItems (.struct name) source items
  | _, other => .error (mismatch other (.struct name))

end Record

end DesktopAgent.Wire
