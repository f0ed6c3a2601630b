import DesktopAgent.Wire.Error

/-!
Readers of single values.

A value is read from its place, or from a copy that was kept while the tag beside it was looked up.
The kept copy is read more freely: a variant may be given by its index, and an empty object stands
for nothing.
-/

namespace DesktopAgent.Wire

inductive Source where
  | direct
  | held
deriving DecidableEq, Repr

abbrev Decoder (α : Type) := Source → Json → Except DecodeError α

/-- The error for a value of the wrong kind. -/
def mismatch (found : Json) (expected : Expectation) : DecodeError :=
  .wrongType (Found.ofJson found) expected

def string : Decoder String
  | _, .string text => .ok text
  | _, other => .error (mismatch other .string)

/-- A range of integers with the name that messages give it. -/
structure IntegerRange where
  name : String
  least : Int
  greatest : Int
deriving DecidableEq, Repr

namespace IntegerRange

def signed64 : IntegerRange := ⟨"i64", -9223372036854775808, 9223372036854775807⟩

def natural32 : IntegerRange := ⟨"u32", 0, 4294967295⟩

/-- Natural numbers of 64 bits, as counts. -/
def count : IntegerRange := ⟨"usize", 0, 18446744073709551615⟩

def natural128 : IntegerRange := ⟨"u128", 0, 340282366920938463463374607431768211455⟩

end IntegerRange

def integer (range : IntegerRange) : Json → Except DecodeError Int
  | .number (.integer value) =>
      if range.least ≤ value ∧ value ≤ range.greatest then .ok value
      else .error (.wrongValue (.integer value) (.integer range.name))
  | other => .error (mismatch other (.integer range.name))

def int64 : Decoder Int64 :=
  fun _ value => (integer .signed64 value).map Int64.ofInt

def uint32 : Decoder UInt32 :=
  fun _ value => (integer .natural32 value).map fun n => UInt32.ofNat n.toNat

def count64 : Decoder UInt64 :=
  fun _ value => (integer .count value).map fun n => UInt64.ofNat n.toNat

def natural : Decoder Nat :=
  fun _ value => (integer .natural128 value).map Int.toNat

/-- Reads null as nothing. -/
def optional {α : Type} (decode : Decoder α) : Decoder (Option α)
  | _, .null => .ok none
  | source, value => (decode source value).map some

def sequence {α : Type} (decode : Decoder α) : Decoder (List α)
  | source, .array items => items.mapM (decode source)
  | _, other => .error (mismatch other .sequence)

/-- Reads what carries nothing. -/
def unit : Decoder Unit
  | _, .null => .ok ()
  | .held, .object [] => .ok ()
  | _, other => .error (mismatch other .unit)

end DesktopAgent.Wire
