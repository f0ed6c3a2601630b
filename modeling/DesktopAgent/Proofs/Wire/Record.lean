import DesktopAgent.Wire.Record

/-!
What readers yield.

A property of everything that the readers of the parts yield is a property of the whole: of the
items of a sequence, and of a record in either of its forms.
-/

namespace DesktopAgent.Json

theorem lookup_of_mem
    {members : List (String × Json)} (distinct : (members.map (·.1)).Nodup)
    {member : String × Json} (isMember : member ∈ members) :
    lookup member.1 members = some member.2 := by
  induction members with
  | nil => cases isMember
  | cons first rest inductionHypothesis =>
      obtain ⟨notLater, laterDistinct⟩ := List.nodup_cons.mp distinct
      rcases List.mem_cons.mp isMember with rfl | later
      · exact if_pos rfl
      · have other : first.1 ≠ member.1 :=
          fun same => notLater (List.mem_map.mpr ⟨member, later, same.symm⟩)
        obtain ⟨name, value⟩ := first
        rw [lookup, if_neg other]
        exact inductionHypothesis laterDistinct later

end DesktopAgent.Json

namespace DesktopAgent.Wire

variable {α β : Type} {property : α → Prop}

theorem exists_of_bind_eq_ok
    {ε : Type} {first : Except ε α} {next : α → Except ε β} {result : β}
    (succeeds : (first >>= next) = .ok result) :
    ∃ found, first = .ok found ∧ next found = .ok result := by
  cases first with
  | error problem => cases succeeds
  | ok found => exact ⟨found, rfl, succeeds⟩

theorem exists_of_map_eq_ok
    {ε : Type} {first : Except ε α} {f : α → β} {result : β}
    (succeeds : first.map f = .ok result) :
    ∃ found, first = .ok found ∧ f found = result := by
  cases first with
  | error problem => cases succeeds
  | ok found =>
      cases succeeds
      exact ⟨found, rfl, rfl⟩

/-- Everything that a reader yields has a property. -/
def Yields (decode : Decoder α) (property : α → Prop) : Prop :=
  ∀ (source : Source) (value : Json) (found : α),
    decode source value = .ok found → property found

theorem forall_of_mapM_eq_ok
    {ε γ : Type} {read : γ → Except ε α} {items : List γ}
    (each : ∀ (item : γ) (found : α), read item = .ok found → property found) :
    ∀ {results : List α}, items.mapM read = .ok results →
      ∀ found ∈ results, property found := by
  induction items with
  | nil =>
      intro results all found member
      cases all
      cases member
  | cons item rest inductionHypothesis =>
      intro results all found member
      rw [List.mapM_cons] at all
      obtain ⟨first, head, others⟩ := exists_of_bind_eq_ok all
      obtain ⟨later, tail, joined⟩ := exists_of_bind_eq_ok others
      cases joined
      rcases List.mem_cons.mp member with rfl | memberLater
      · exact each item found head
      · exact inductionHypothesis tail found memberLater

theorem Yields.sequence {decode : Decoder α} (yields : Yields decode property) :
    Yields (sequence decode) fun results => ∀ found ∈ results, property found := by
  intro source value results read
  cases value with
  | array items => exact forall_of_mapM_eq_ok (yields source) read
  | _ => cases read

theorem eq_of_string
    {source : Source} {value : Json} {text : String} (read : string source value = .ok text) :
    value = .string text := by
  cases value with
  | string words =>
      cases read
      rfl
  | _ => cases read

namespace Record

variable {source : Source} {members : List (String × Json)} {found : α}

theorem fromMembers_of_ofMembers
    {record : Record α} (read : record.ofMembers source members = .ok found) :
    record.fromMembers source members = .ok found := by
  obtain ⟨_, _, reads⟩ := exists_of_bind_eq_ok read
  exact reads

theorem exists_of_field
    {name : String} {decode : Decoder α}
    (read : (field name decode).fromMembers source members = .ok found) :
    ∃ value, Json.lookup name members = some value ∧ decode source value = .ok found := by
  simp only [field] at read
  cases present : Json.lookup name members with
  | none =>
      rw [present] at read
      cases read
  | some value =>
      rw [present] at read
      exact ⟨value, rfl, read⟩

theorem lookup_of_textField
    {name text : String} (read : (field name string).fromMembers source members = .ok text) :
    Json.lookup name members = some (.string text) := by
  obtain ⟨value, present, reads⟩ := exists_of_field read
  rw [present, eq_of_string reads]

theorem exists_of_optional
    {decode : Decoder α} {value : Json} {found : Option α}
    (read : optional decode source value = .ok found) :
    found = none ∧ value = .null ∨ ∃ a, found = some a ∧ decode source value = .ok a := by
  cases value with
  | null =>
      cases read
      exact Or.inl ⟨rfl, rfl⟩
  | _ =>
      obtain ⟨a, reads, rfl⟩ := exists_of_map_eq_ok read
      exact Or.inr ⟨a, rfl, reads⟩

/-- A field that may be absent was absent or null, or it was read. -/
theorem exists_of_optionalField
    {name : String} {decode : Decoder α} {found : Option α}
    (read : (optionalField name decode).fromMembers source members = .ok found) :
    found = none ∧
        (Json.lookup name members = none ∨ Json.lookup name members = some .null) ∨
      ∃ value a, Json.lookup name members = some value ∧ found = some a ∧
        decode source value = .ok a := by
  simp only [optionalField] at read
  cases present : Json.lookup name members with
  | none =>
      rw [present] at read
      cases read
      exact Or.inl ⟨rfl, Or.inl rfl⟩
  | some value =>
      rw [present] at read
      rcases exists_of_optional read with ⟨rfl, rfl⟩ | ⟨a, rfl, reads⟩
      · exact Or.inl ⟨rfl, Or.inr rfl⟩
      · exact Or.inr ⟨value, a, rfl, rfl, reads⟩

theorem exists_of_field_item
    {name : String} {decode : Decoder α} {short : Nat → DecodeError} {position : Nat}
    {items rest : List Json}
    (read : (field name decode).fromItems source short position items = .ok (found, rest)) :
    ∃ value, items = value :: rest ∧ decode source value = .ok found := by
  cases items with
  | nil => cases read
  | cons value others =>
      obtain ⟨_, reads, same⟩ := exists_of_map_eq_ok read
      cases same
      exact ⟨value, rfl, reads⟩

theorem forM_check_iff {record : Record α} :
    (members.forM fun (key, value) => record.check key source value) = .ok () ↔
      ∀ member ∈ members, record.check member.1 source member.2 = .ok () := by
  induction members with
  | nil => exact iff_of_true rfl fun member isMember => by cases isMember
  | cons first rest inductionHypothesis =>
      rw [List.forall_mem_cons, ← inductionHypothesis]
      change (do
        record.check first.1 source first.2
        rest.forM fun (key, value) => record.check key source value) = _ ↔ _
      cases record.check first.1 source first.2 with
      | error problem => exact iff_of_false (by rintro ⟨⟩) (by rintro ⟨⟨⟩, _⟩)
      | ok passed => exact (and_iff_right rfl).symm

theorem exists_ofMembers_iff {record : Record α} :
    (∃ found, record.ofMembers source members = .ok found) ↔
      (∀ member ∈ members, record.check member.1 source member.2 = .ok ()) ∧
        ∃ found, record.fromMembers source members = .ok found := by
  rw [← forM_check_iff]
  constructor
  · rintro ⟨found, read⟩
    obtain ⟨passed, checked, reads⟩ := exists_of_bind_eq_ok read
    exact ⟨checked, found, reads⟩
  · rintro ⟨checked, found, reads⟩
    refine ⟨found, ?_⟩
    rw [ofMembers, checked]
    exact reads

theorem check_seq_iff {build : Record (α → β)} {argument : Record α} {key : String} {value : Json} :
    (build <*> argument).check key source value = .ok () ↔
      build.check key source value = .ok () ∧ argument.check key source value = .ok () := by
  change (do
    build.check key source value
    argument.check key source value) = _ ↔ _
  cases build.check key source value with
  | error problem => exact iff_of_false (by rintro ⟨⟩) (by rintro ⟨⟨⟩, _⟩)
  | ok passed => exact (and_iff_right rfl).symm

theorem exists_seq_iff {build : Record (α → β)} {argument : Record α} :
    (∃ found, (build <*> argument).fromMembers source members = .ok found) ↔
      (∃ f, build.fromMembers source members = .ok f) ∧
        ∃ a, argument.fromMembers source members = .ok a := by
  constructor
  · rintro ⟨found, read⟩
    obtain ⟨f, first, next⟩ := exists_of_bind_eq_ok read
    obtain ⟨a, second, _⟩ := exists_of_bind_eq_ok next
    exact ⟨⟨f, first⟩, a, second⟩
  · rintro ⟨⟨f, first⟩, a, second⟩
    refine ⟨f a, ?_⟩
    change (do
      let f ← build.fromMembers source members
      let a ← argument.fromMembers source members
      return f a) = _
    rw [first, second]
    rfl

theorem exists_map_iff {f : α → β} {record : Record α} :
    (∃ found, (f <$> record).fromMembers source members = .ok found) ↔
      ∃ a, record.fromMembers source members = .ok a := by
  constructor
  · rintro ⟨found, read⟩
    obtain ⟨a, reads, _⟩ := exists_of_map_eq_ok read
    exact ⟨a, reads⟩
  · rintro ⟨a, reads⟩
    refine ⟨f a, ?_⟩
    change (record.fromMembers source members).map f = _
    rw [reads]
    rfl

theorem check_textField_iff {name key : String} {value : Json} :
    (field name string).check key source value = .ok () ↔
      (key = name → ∃ text, value = .string text) := by
  by_cases isName : key = name
  · simp only [field, isName, if_true, forall_const]
    cases value with
    | string text => exact iff_of_true rfl ⟨text, rfl⟩
    | _ => exact iff_of_false (by rintro ⟨⟩) (by rintro ⟨_, ⟨⟩⟩)
  · simp only [field, isName, if_false, false_implies]

theorem exists_textField_iff {name : String} :
    (∃ text, (field name string).fromMembers source members = .ok text) ↔
      ∃ text, Json.lookup name members = some (.string text) := by
  constructor
  · rintro ⟨text, read⟩
    exact ⟨text, lookup_of_textField read⟩
  · rintro ⟨text, found⟩
    refine ⟨text, ?_⟩
    simp only [field, found]
    rfl

end Record

/-- Everything that a reader of records yields has a property, in both forms. -/
structure Record.Yields (record : Record α) (property : α → Prop) : Prop where
  fromMembers : ∀ (source : Source) (members : List (String × Json)) (found : α),
    record.fromMembers source members = .ok found → property found
  fromItems : ∀ (source : Source) (short : Nat → DecodeError) (position : Nat)
    (items : List Json) (found : α) (rest : List Json),
    record.fromItems source short position items = .ok (found, rest) → property found

namespace Record.Yields

theorem field (name : String) {decode : Decoder α} (yields : Wire.Yields decode property) :
    (Record.field name decode).Yields property where
  fromMembers source members found read := by
    obtain ⟨value, _, reads⟩ := Record.exists_of_field read
    exact yields source value found reads
  fromItems source short position items found rest read := by
    obtain ⟨value, _, reads⟩ := Record.exists_of_field_item read
    exact yields source value found reads

theorem map {record : Record α} {property : β → Prop} (f : α → β)
    (yields : record.Yields fun found => property (f found)) :
    (f <$> record).Yields property where
  fromMembers source members found read := by
    obtain ⟨a, reads, rfl⟩ := exists_of_map_eq_ok read
    exact yields.fromMembers source members a reads
  fromItems source short position items found rest read := by
    obtain ⟨⟨a, others⟩, reads, same⟩ := exists_of_map_eq_ok read
    cases same
    exact yields.fromItems source short position items a rest reads

theorem apply {build : Record (α → β)} {argument : Record α} {given : α → Prop}
    {property : β → Prop}
    (builds : build.Yields fun f => ∀ a, given a → property (f a))
    (yields : argument.Yields given) :
    (build <*> argument).Yields property where
  fromMembers source members found read := by
    obtain ⟨f, first, next⟩ := exists_of_bind_eq_ok read
    obtain ⟨a, second, same⟩ := exists_of_bind_eq_ok next
    cases same
    exact builds.fromMembers source members f first a
      (yields.fromMembers source members a second)
  fromItems source short position items found rest read := by
    obtain ⟨⟨f, left⟩, first, next⟩ := exists_of_bind_eq_ok read
    obtain ⟨⟨a, others⟩, second, same⟩ := exists_of_bind_eq_ok next
    cases same
    exact builds.fromItems source short position items f left first a
      (yields.fromItems source short _ left a rest second)

theorem decoder (name : String) {record : Record α} (yields : record.Yields property) :
    Wire.Yields (record.decoder name) property := by
  intro source value found read
  cases value with
  | object members =>
      obtain ⟨passed, _, reads⟩ := exists_of_bind_eq_ok read
      exact yields.fromMembers source members found reads
  | array items =>
      obtain ⟨⟨a, rest⟩, reads, ends⟩ := exists_of_bind_eq_ok read
      by_cases none : rest.isEmpty
      · simp only [none, if_true] at ends
        cases ends
        exact yields.fromItems source _ 0 items found rest reads
      · simp only [none] at ends
        cases ends
  | _ => cases read

end Record.Yields

end DesktopAgent.Wire
