import DesktopAgent.Wire.Record

/-!
Readers of values that are one of several variants.

A tagged value holds the variant's name under a tag, beside the variant's fields; the rest is kept
while the tag is looked up and read afterwards. An untagged value is the variant's name alone, or an
object whose only key is that name.
-/

namespace DesktopAgent.Wire

variable {α : Type}

inductive Payload (α : Type) where
  | nothing (value : α)
  | single (decode : Decoder α)
  | record (fields : Record α)

/-- A variant: its name on the wire, its name in messages, and what it carries. -/
structure Variant (α : Type) where
  name : String
  label : String
  payload : Payload α

namespace Variant

def named? (variants : List (Variant α)) (name : String) : Except DecodeError (Variant α) :=
  match variants.find? fun variant => variant.name = name with
  | some variant => .ok variant
  | none => .error (.unknownVariant name (variants.map (·.name)))

def indexed? (variants : List (Variant α)) (index : Nat) : Except DecodeError (Variant α) :=
  match variants[index]? with
  | some variant => .ok variant
  | none => .error (.wrongValue (.integer index) (.variantIndex variants.length))

/-- The variant that a tag's value names; a kept copy may give its index. -/
def identify (variants : List (Variant α)) : Source → Json → Except DecodeError (Variant α)
  | _, .string name => named? variants name
  | .held, .number (.integer (.ofNat index)) => indexed? variants index
  | _, other => .error (mismatch other .variantName)

/-- Reads what a tagged variant carries, from what was beside the tag. -/
def readTagged (type : String) (variant : Variant α) (rest : Json) : Except DecodeError α :=
  match variant.payload, rest with
  | .nothing value, .array items =>
      if items.isEmpty then .ok value else .error (Record.leftover .held items.length 0)
  | .nothing value, _ => .ok value
  | .single decode, rest => decode .held rest
  | .record fields, .object members => fields.ofMembers .held members
  | .record fields, .array items =>
      fields.ofItems (.structVariantOf type variant.label) .held items
  | .record _, other => .error (mismatch other (.structVariantOf type variant.label))

/-- The members whose key is not the tag. -/
def withoutTag (tag : String) (members : List (String × Json)) : List (String × Json) :=
  members.filter fun member => member.1 ≠ tag

def tagged (type tag : String) (variants : List (Variant α)) : Decoder α
  | source, .object members =>
      match Json.lookup tag members with
      | none => .error (.missingField tag)
      | some name => do
          let variant ← identify variants source name
          variant.readTagged type (.object (withoutTag tag members))
  | _, .array [] => .error (.missingField tag)
  | source, .array (name :: rest) => do
      let variant ← identify variants source name
      variant.readTagged type (.array rest)
  | _, other => .error (mismatch other (.tagged type))

/-- The value of a variant of which only the name is given. -/
def bare (variant : Variant α) : Except DecodeError α :=
  match variant.payload with
  | .nothing value => .ok value
  | .single _ => .error (.wrongType .unitVariant .newtypeVariant)
  | .record _ => .error (.wrongType .unitVariant .structVariant)

/-- Reads what a variant carries, from the value of its key. -/
def readKeyed (variant : Variant α) (source : Source) (content : Json) : Except DecodeError α :=
  match variant.payload, content with
  | .nothing value, content => (unit source content).map fun _ => value
  | .single decode, content => decode source content
  | .record fields, .object members => fields.ofMembers source members
  | .record _, other => .error (mismatch other .structVariant)

def untagged (variants : List (Variant α)) : Decoder α
  | _, .string name => do
      let variant ← named? variants name
      variant.bare
  | source, .object [(name, content)] => do
      let variant ← named? variants name
      variant.readKeyed source content
  | _, .object _ => .error (.wrongValue .map .singleKeyMap)
  | _, other => .error (mismatch other .stringOrMap)

end Variant

end DesktopAgent.Wire
