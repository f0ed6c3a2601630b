import DesktopAgent.Proofs.Wire.Variant
import Mathlib.Algebra.Group.Nat.Defs

/-!
Values that come back from their wire form.

A reader returns a value when it finds it in what was written of it, from wherever that is read. Of
a record this holds when it holds of each field and no key stands twice; of a variant, when its name
is found and what it carries comes back.
-/

namespace DesktopAgent.Wire

variable {α β : Type}

/-- The values of a domain are read back from their wire form, and whatever is read from a value is
read again from the wire form of what was found. -/
structure Returns (encode : α → Json) (decode : Decoder α) (domain : α → Prop) : Prop where
  reads_back : ∀ (source : Source) (a : α), domain a → decode source (encode a) = .ok a
  settles : ∀ (source other : Source) (value : Json) (a : α), decode source value = .ok a →
    decode other (encode a) = decode source value

section

variable {encode : α → Json} {decode : Decoder α} {domain : α → Prop}

theorem Returns.of_yields
    (reads : ∀ (source : Source) (a : α), domain a → decode source (encode a) = .ok a)
    (yields : Yields decode domain) : Returns encode decode domain where
  reads_back := reads
  settles source other value a read := by
    rw [reads other a (yields source value a read), read]

theorem Returns.of_all
    (reads : ∀ (source : Source) (a : α), decode source (encode a) = .ok a) :
    Returns encode decode fun _ => True :=
  .of_yields (fun source a _ => reads source a) fun _ _ _ _ => trivial

theorem Returns.narrow
    {smaller : α → Prop} (returns : Returns encode decode domain)
    (within : ∀ a, smaller a → domain a) : Returns encode decode smaller where
  reads_back source a isSmaller := returns.reads_back source a (within a isSmaller)
  settles := returns.settles

end

theorem integer_of_range
    {range : IntegerRange} {value : Int} (low : range.least ≤ value)
    (high : value ≤ range.greatest) : integer range (.int value) = .ok value :=
  if_pos ⟨low, high⟩

theorem int64_toInt (source : Source) (n : Int64) : int64 source (.int n.toInt) = .ok n := by
  have whole : integer .signed64 (.int n.toInt) = .ok n.toInt :=
    integer_of_range n.minValue_le_toInt n.toInt_le
  rw [int64, whole, Except.map, Int64.ofInt_toInt]

theorem integer_natCast
    {range : IntegerRange} {n : Nat} (natural : range.least = 0)
    (high : (n : Int) ≤ range.greatest) :
    integer range (.nat n) = .ok (n : Int) :=
  integer_of_range (natural ▸ Int.natCast_nonneg n) high

theorem uint32_toNat (source : Source) (n : UInt32) : uint32 source (.nat n.toNat) = .ok n := by
  have whole : integer .natural32 (.nat n.toNat) = .ok (n.toNat : Int) :=
    integer_natCast rfl (Int.le_of_lt_add_one (Int.ofNat_lt.mpr n.toNat_lt))
  rw [uint32, whole, Except.map, Int.toNat_natCast, UInt32.ofNat_toNat]

theorem count64_toNat (source : Source) (n : UInt64) : count64 source (.nat n.toNat) = .ok n := by
  have whole : integer .count (.nat n.toNat) = .ok (n.toNat : Int) :=
    integer_natCast rfl (Int.le_of_lt_add_one (Int.ofNat_lt.mpr n.toNat_lt))
  rw [count64, whole, Except.map, Int.toNat_natCast, UInt64.ofNat_toNat]

theorem natural_of_lt {n : Nat} (small : n < 2 ^ 128) (source : Source) :
    natural source (.nat n) = .ok n := by
  have whole : integer .natural128 (.nat n) = .ok (n : Int) :=
    integer_natCast rfl (Int.le_of_lt_add_one (Int.ofNat_lt.mpr small))
  rw [natural, whole, Except.map, Int.toNat_natCast]

theorem yields_natural : Yields natural (· < 2 ^ 128) := by
  intro source value n read
  obtain ⟨whole, reads, rfl⟩ := exists_of_map_eq_ok read
  unfold integer at reads
  split at reads
  · split at reads
    · rename_i inRange
      cases reads
      have low := inRange.1
      have high := inRange.2
      simp only [IntegerRange.natural128] at low high
      omega
    · cases reads
  · cases reads

namespace Record

variable {source : Source} {members : List (String × Json)} {a : α}

/-- The members of an object are accepted by a reader of records, which finds a record in them. -/
structure Finds (record : Record α) (source : Source) (members : List (String × Json)) (a : α) :
    Prop where
  check : ∀ member ∈ members, record.check member.1 source member.2 = .ok ()
  fromMembers : record.fromMembers source members = .ok a

namespace Finds

theorem field
    {name : String} {decode : Decoder α} {value : Json} (distinct : (members.map (·.1)).Nodup)
    (present : Json.lookup name members = some value) (reads : decode source value = .ok a) :
    (Record.field name decode).Finds source members a where
  check member isMember := by
    change (if member.1 = name then (decode source member.2).map fun _ => () else .ok ()) = _
    by_cases isName : member.1 = name
    · have found := Json.lookup_of_mem distinct isMember
      rw [isName, present] at found
      rw [if_pos isName, ← Option.some.inj found, reads]
      rfl
    · exact if_neg isName
  fromMembers := by
    simp only [Record.field, present, reads]

/-- A field that may be absent, when it is there, is read as one that must be. -/
theorem optionalField
    {name : String} {decode : Decoder α} {value : Json} {found : Option α}
    (distinct : (members.map (·.1)).Nodup) (present : Json.lookup name members = some value)
    (reads : optional decode source value = .ok found) :
    (Record.optionalField name decode).Finds source members found where
  check := (field distinct present reads).check
  fromMembers := by
    simp only [Record.optionalField, present, reads]

theorem map {record : Record α} (f : α → β) (finds : record.Finds source members a) :
    (f <$> record).Finds source members (f a) where
  check := finds.check
  fromMembers := by
    change (record.fromMembers source members).map f = _
    rw [finds.fromMembers]
    rfl

theorem apply
    {build : Record (α → β)} {argument : Record α} {f : α → β}
    (builds : build.Finds source members f) (finds : argument.Finds source members a) :
    (build <*> argument).Finds source members (f a) where
  check member isMember :=
    check_seq_iff.mpr ⟨builds.check member isMember, finds.check member isMember⟩
  fromMembers := by
    change (do
      let f ← build.fromMembers source members
      let a ← argument.fromMembers source members
      return f a) = _
    rw [builds.fromMembers, finds.fromMembers]
    rfl

theorem ofMembers {record : Record α} (finds : record.Finds source members a) :
    record.ofMembers source members = .ok a := by
  rw [Record.ofMembers, forM_check_iff.mpr finds.check]
  exact finds.fromMembers

theorem decoder
    {record : Record α} (finds : record.Finds source members a) (name : String) :
    record.decoder name source (.object members) = .ok a :=
  finds.ofMembers

end Finds

end Record

namespace Variant

variable {source : Source} {members : List (String × Json)} {variants : List (Variant α)}
  {type tag name label : String} {a : α}

theorem tagged_of_named
    {variant : Variant α} (isTag : Json.lookup tag members = some (.string name))
    (named : named? variants name = .ok variant) :
    tagged type tag variants source (.object members) =
      variant.readTagged type (.object (withoutTag tag members)) := by
  have identified : identify variants source (.string name) = .ok variant := by
    cases source <;> exact named
  simp only [tagged, isTag, identified]
  rfl

theorem tagged_of_nothing
    (isTag : Json.lookup tag members = some (.string name))
    (named : named? variants name = .ok ⟨name, label, .nothing a⟩) :
    tagged type tag variants source (.object members) = .ok a :=
  tagged_of_named isTag named

theorem tagged_of_finds
    {record : Record α} (isTag : Json.lookup tag members = some (.string name))
    (named : named? variants name = .ok ⟨name, label, .record record⟩)
    (finds : record.Finds .held (withoutTag tag members) a) :
    tagged type tag variants source (.object members) = .ok a :=
  (tagged_of_named isTag named).trans finds.ofMembers

theorem untagged_of_finds
    {record : Record α} (named : named? variants name = .ok ⟨name, label, .record record⟩)
    (finds : record.Finds source members a) :
    untagged variants source (.object [(name, .object members)]) = .ok a := by
  simp only [untagged, named]
  exact finds.ofMembers

end Variant

/-- Everything that is read of what a variant carries has a property. -/
def Payload.Yields : Payload α → (α → Prop) → Prop
  | .nothing value, property => property value
  | .single decode, property => Wire.Yields decode property
  | .record fields, property => fields.Yields property

theorem Yields.untagged
    {variants : List (Variant α)} {property : α → Prop}
    (each : ∀ variant ∈ variants, variant.payload.Yields property) :
    Yields (Variant.untagged variants) property := by
  intro source value found read
  unfold Variant.untagged at read
  split at read
  · obtain ⟨⟨name, label, payload⟩, named, isBare⟩ := exists_of_bind_eq_ok read
    have yields := each _ (Variant.mem_of_named named).1
    cases payload with
    | nothing value =>
        cases isBare
        exact yields
    | single | record => cases isBare
  · obtain ⟨⟨name, label, payload⟩, named, isKeyed⟩ := exists_of_bind_eq_ok read
    have yields := each _ (Variant.mem_of_named named).1
    cases payload with
    | nothing value =>
        obtain ⟨_, _, rfl⟩ := exists_of_map_eq_ok isKeyed
        exact yields
    | single decode => exact yields _ _ found isKeyed
    | record fields =>
        unfold Variant.readKeyed at isKeyed
        split at isKeyed
        · rename_i isNothing
          cases isNothing
        · rename_i isSingle
          cases isSingle
        · rename_i isRecord
          cases isRecord
          exact yields.fromMembers _ _ found (Record.fromMembers_of_ofMembers isKeyed)
        · cases isKeyed
  · cases read
  · cases read

end DesktopAgent.Wire
