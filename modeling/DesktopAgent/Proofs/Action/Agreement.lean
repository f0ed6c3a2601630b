import DesktopAgent.Action.Input
import DesktopAgent.Action.Wire
import DesktopAgent.Proofs.Wire.Variant

/-!
The two readers of an action agree.

A tool input is read freely, the wire form of an action by the rules of records and variants. Where
the second succeeds on an object whose action is given by its name, the first gives the same action,
so the free reading is an extension of the wire form. It reads every action back but an unknown one,
whose name stands elsewhere in the wire form.
-/

namespace DesktopAgent

open DesktopAgent.Wire

namespace Action

theorem readInteger_of_range
    {value : Int} (low : leastInteger ≤ value) (high : value ≤ greatestInteger)
    (parameter : String) : readInteger parameter (.int value) = .ok (Int64.ofInt value) :=
  congrArg Except.ok (if_pos ⟨low, high⟩)

theorem readInteger_int (parameter : String) (n : Int64) :
    readInteger parameter (.int n.toInt) = .ok n := by
  rw [readInteger_of_range n.minValue_le_toInt n.toInt_le, Int64.ofInt_toInt]

/-- An integer that the wire form admits is one of 64 bits already, so nothing is cut off. -/
theorem readInteger_of_int64
    {source : Source} {value : Json} {n : Int64} (read : int64 source value = .ok n)
    (parameter : String) : readInteger parameter value = .ok n := by
  obtain ⟨whole, reads, rfl⟩ := exists_of_map_eq_ok read
  unfold integer at reads
  split at reads
  · split at reads
    · rename_i inRange
      cases reads
      exact readInteger_of_range inRange.1 inRange.2 parameter
    · cases reads
  · cases reads

theorem readClickCount_int
    {value : Int} (low : 0 ≤ value) (high : value < 4294967296) :
    readClickCount (.int value) = .ok (UInt32.ofNat value.toNat) := by
  have fits : readInteger "amount" (.int value) = .ok (Int64.ofInt value) :=
    readInteger_of_range (by unfold leastInteger; omega) (by unfold greatestInteger; omega) _
  have whole : (Int64.ofInt value).toInt = value :=
    Int64.toInt_ofInt_of_le (by omega) (by omega)
  unfold readClickCount
  rw [fits]
  change (if 0 ≤ (Int64.ofInt value).toInt ∧ (Int64.ofInt value).toInt < 4294967296 then
    Except.ok (UInt32.ofNat (Int64.ofInt value).toInt.toNat) else _) = _
  rw [whole, if_pos ⟨low, high⟩]

theorem readClickCount_of_uint32
    {source : Source} {value : Json} {n : UInt32} (read : uint32 source value = .ok n) :
    readClickCount value = .ok n := by
  obtain ⟨whole, reads, rfl⟩ := exists_of_map_eq_ok read
  unfold integer at reads
  split at reads
  · split at reads
    · rename_i inRange
      cases reads
      exact readClickCount_int inRange.1 (Int.lt_add_one_of_le inRange.2)
    · cases reads
  · cases reads

/-- The wire form of a coordinate has two components, in either of its forms. -/
theorem exists_components_of_decode
    {source : Source} {value : Json} {place : Coordinate}
    (read : Coordinate.decode source value = .ok place) :
    ∃ x y, components value = .ok (x, y) ∧
      int64 source x = .ok place.x ∧ int64 source y = .ok place.y := by
  cases value with
  | object members =>
      obtain ⟨_, builds, next⟩ := exists_of_bind_eq_ok (Record.fromMembers_of_ofMembers read)
      obtain ⟨_, first, rfl⟩ := exists_of_map_eq_ok builds
      obtain ⟨_, second, built⟩ := exists_of_bind_eq_ok next
      cases built
      obtain ⟨x, isX, readsX⟩ := Record.exists_of_field first
      obtain ⟨y, isY, readsY⟩ := Record.exists_of_field second
      refine ⟨x, y, ?_, readsX, readsY⟩
      simp only [components, isX, isY]
  | array items =>
      obtain ⟨⟨_, rest⟩, reads, ends⟩ := exists_of_bind_eq_ok read
      obtain ⟨⟨_, afterX⟩, builds, next⟩ := exists_of_bind_eq_ok reads
      obtain ⟨⟨_, left⟩, first, same⟩ := exists_of_map_eq_ok builds
      cases same
      obtain ⟨⟨_, afterY⟩, second, built⟩ := exists_of_bind_eq_ok next
      cases built
      obtain ⟨x, rfl, readsX⟩ := Record.exists_of_field_item first
      obtain ⟨y, rfl, readsY⟩ := Record.exists_of_field_item second
      cases rest with
      | nil =>
          cases ends
          exact ⟨x, y, rfl, readsX, readsY⟩
      | cons _ _ => cases ends
  | _ => cases read

variable {parameters : Parameters}

theorem readPlace_of_components
    {value x y : Json} {place : Coordinate}
    (present : Json.lookup "coordinate" parameters = some value)
    (parts : components value = .ok (x, y))
    (readsX : readInteger "coordinate" x = .ok place.x)
    (readsY : readInteger "coordinate" y = .ok place.y) :
    readPlace parameters = .ok (some place) := by
  unfold readPlace
  rw [present]
  cases value with
  | null => cases parts
  | _ => simp only [parts, readsX, readsY, bind, Except.bind, pure, Except.pure]

theorem readPlace_of_decode
    {source : Source} {value : Json} {place : Coordinate}
    (present : Json.lookup "coordinate" parameters = some value)
    (read : Coordinate.decode source value = .ok place) :
    readPlace parameters = .ok (some place) := by
  obtain ⟨x, y, parts, readsX, readsY⟩ := exists_components_of_decode read
  exact readPlace_of_components present parts (readInteger_of_int64 readsX _)
    (readInteger_of_int64 readsY _)

section

variable {source : Source} {rest : List (String × Json)}

theorem readPlace_of_placeField
    {place : Option Coordinate}
    (same : Json.lookup "coordinate" rest = Json.lookup "coordinate" parameters)
    (read : placeField.fromMembers source rest = .ok place) :
    readPlace parameters = .ok place := by
  rcases Record.exists_of_optionalField read with
    ⟨rfl, none | null⟩ | ⟨value, place, present, rfl, reads⟩
  · rw [same] at none
    unfold readPlace
    rw [none]
  · rw [same] at null
    unfold readPlace
    rw [null]
  · exact readPlace_of_decode (same.symm.trans present) reads

theorem lookup_of_field
    {name text : String} (same : Json.lookup name rest = Json.lookup name parameters)
    (read : (Record.field name string).fromMembers source rest = .ok text) :
    Json.lookup name parameters = some (.string text) :=
  same.symm.trans (Record.lookup_of_textField read)

theorem requireText_of_lookup
    {action name text : String} (present : Json.lookup name parameters = some (.string text)) :
    requireText action name parameters = .ok text := by
  rw [requireText, Json.lookupText, present]
  rfl

theorem readKeys_of_lookup
    {keys : String} (present : Json.lookup "key" parameters = some (.string keys)) :
    readKeys parameters = .ok keys := by
  rw [readKeys, firstPresent, present]
  rfl

theorem readDirection_of_field
    {word : String} {direction : ScrollDirection}
    (same : Json.lookup "direction" rest = Json.lookup "direction" parameters)
    (isWord : Json.lookup "direction" parameters = some (.string word))
    (read : (Record.field "direction" ScrollDirection.decode).fromMembers source rest =
      .ok direction) :
    readDirection parameters = .ok direction := by
  obtain ⟨value, present, reads⟩ := Record.exists_of_field read
  obtain rfl : .string word = value := by
    rw [same, isWord] at present
    exact Option.some.inj present
  obtain ⟨variant, named, isBare⟩ := exists_of_bind_eq_ok reads
  obtain ⟨member, rfl⟩ := Variant.mem_of_named named
  have found : ScrollDirection.ofName? variant.name = some direction := by
    simp only [ScrollDirection.variants, List.mem_cons, List.not_mem_nil, or_false] at member
    rcases member with rfl | rfl | rfl | rfl
    all_goals
      cases isBare
      rfl
  simp only [readDirection, firstPresent, isWord, Option.orElse_some, Option.bind_some,
    Json.text?, found]

theorem readAmount_of_field
    {amount : UInt32} (same : Json.lookup "amount" rest = Json.lookup "amount" parameters)
    (read : (Record.field "amount" uint32).fromMembers source rest = .ok amount) :
    readAmount parameters = .ok amount := by
  obtain ⟨value, present, reads⟩ := Record.exists_of_field read
  rw [same] at present
  have counted := readClickCount_of_uint32 reads
  simp only [readAmount, firstPresent, present, Option.orElse_some]
  cases value with
  | null => cases counted
  | _ => exact counted

end

section

variable {action : Action}

theorem lookup_beside
    {name : String} (other : name ≠ "action") :
    Json.lookup name (Variant.withoutTag "action" parameters) = Json.lookup name parameters :=
  Variant.lookup_withoutTag other parameters

theorem click_of_record
    (click : Option Coordinate → Action)
    (read : (click <$> placeField).ofMembers .held (Variant.withoutTag "action" parameters) =
      .ok action) :
    (readPlace parameters).map click = .ok action := by
  have reads := Record.fromMembers_of_ofMembers read
  obtain ⟨place, placed, rfl⟩ := exists_of_map_eq_ok reads
  rw [readPlace_of_placeField (lookup_beside (by decide)) placed]
  rfl

theorem type_of_record
    (read : (type <$> Record.field "text" string).ofMembers .held
      (Variant.withoutTag "action" parameters) = .ok action) :
    (requireText "type" "text" parameters).map type = .ok action := by
  have reads := Record.fromMembers_of_ofMembers read
  obtain ⟨text, typed, rfl⟩ := exists_of_map_eq_ok reads
  have present := lookup_of_field (lookup_beside (by decide)) typed
  rw [requireText_of_lookup present]
  rfl

theorem key_of_record
    (read : (key <$> Record.field "key" string).ofMembers .held
      (Variant.withoutTag "action" parameters) = .ok action) :
    (readKeys parameters).map key = .ok action := by
  have reads := Record.fromMembers_of_ofMembers read
  obtain ⟨keys, pressed, rfl⟩ := exists_of_map_eq_ok reads
  have present := lookup_of_field (lookup_beside (by decide)) pressed
  rw [readKeys_of_lookup present]
  rfl

theorem mouseMove_of_record
    (read : (mouseMove <$> Record.field "coordinate" Coordinate.decode).ofMembers .held
      (Variant.withoutTag "action" parameters) = .ok action) :
    (requirePlace "mouse_move" parameters).map mouseMove = .ok action := by
  have reads := Record.fromMembers_of_ofMembers read
  obtain ⟨place, moved, rfl⟩ := exists_of_map_eq_ok reads
  obtain ⟨value, present, placed⟩ := Record.exists_of_field moved
  rw [lookup_beside (by decide)] at present
  rw [requirePlace, readPlace_of_decode present placed]
  rfl

theorem scroll_of_record
    {word : String} (isWord : Json.lookup "direction" parameters = some (.string word))
    (read : (scroll <$> placeField <*> Record.field "direction" ScrollDirection.decode
        <*> Record.field "amount" uint32).ofMembers .held
      (Variant.withoutTag "action" parameters) = .ok action) :
    ofParameters "scroll" parameters = .ok action := by
  have reads := Record.fromMembers_of_ofMembers read
  obtain ⟨_, builds, next⟩ := exists_of_bind_eq_ok reads
  obtain ⟨_, begins, further⟩ := exists_of_bind_eq_ok builds
  obtain ⟨place, placed, rfl⟩ := exists_of_map_eq_ok begins
  obtain ⟨direction, turned, joined⟩ := exists_of_bind_eq_ok further
  cases joined
  obtain ⟨amount, counted, built⟩ := exists_of_bind_eq_ok next
  cases built
  have foundPlace := readPlace_of_placeField (lookup_beside (by decide)) placed
  have foundDirection := readDirection_of_field (lookup_beside (by decide)) isWord turned
  have foundAmount := readAmount_of_field (lookup_beside (by decide)) counted
  change (do
    let place ← readPlace parameters
    let direction ← readDirection parameters
    let amount ← readAmount parameters
    return scroll place direction amount) = _
  rw [foundPlace, foundDirection, foundAmount]
  rfl

/-- What a variant carries is what the parameters of its name say when they are read freely. -/
theorem ofParameters_of_readTagged
    {variant : Variant Action} (member : variant ∈ variants)
    (read : variant.readTagged "Action" (.object (Variant.withoutTag "action" parameters)) =
      .ok action)
    (known : ∀ name, action ≠ .unknown name)
    (directed : variant.name = "scroll" →
      ∃ word, Json.lookup "direction" parameters = some (.string word)) :
    ofParameters variant.name parameters = .ok action := by
  simp only [variants, List.mem_cons, List.not_mem_nil, or_false] at member
  rcases member with rfl | rfl | rfl | rfl | rfl | rfl | rfl | rfl | rfl | rfl
  · exact click_of_record leftClick read
  · exact click_of_record rightClick read
  · exact click_of_record doubleClick read
  · exact type_of_record read
  · exact key_of_record read
  · obtain ⟨word, isWord⟩ := directed rfl
    exact scroll_of_record isWord read
  · exact mouseMove_of_record read
  · cases read
    rfl
  · cases read
    rfl
  · obtain ⟨name, _, rfl⟩ := exists_of_map_eq_ok (Record.fromMembers_of_ofMembers read)
    exact absurd rfl (known name)

theorem ofInput_of_decode
    {source : Source} {name : String}
    (named : Json.lookup "action" parameters = some (.string name))
    (directed : name = "scroll" →
      ∃ word, Json.lookup "direction" parameters = some (.string word))
    (read : decode source (.object parameters) = .ok action)
    (known : ∀ name, action ≠ .unknown name) :
    ofInput (.object parameters) = .ok action := by
  obtain ⟨variant, member, rfl, reads⟩ := Variant.exists_of_tagged_object named read
  have isName : Json.lookupText "action" parameters = some variant.name := by
    rw [Json.lookupText, named]
    rfl
  simp only [ofInput, isName]
  exact ofParameters_of_readTagged member reads known directed

end

theorem readPlace_encodeOption
    {place : Option Coordinate}
    (present : Json.lookup "coordinate" parameters = some (Coordinate.encodeOption place)) :
    readPlace parameters = .ok place := by
  cases place with
  | none =>
      unfold readPlace
      rw [present]
      rfl
  | some place =>
      exact readPlace_of_components present rfl (readInteger_int _ place.x)
        (readInteger_int _ place.y)

theorem ofInput_encode
    {action : Action} (known : ∀ name, action ≠ .unknown name) :
    ofInput action.encode = .ok action := by
  cases action with
  | leftClick place =>
      exact congrArg (Except.map leftClick) (readPlace_encodeOption rfl)
  | rightClick place =>
      exact congrArg (Except.map rightClick) (readPlace_encodeOption rfl)
  | doubleClick place =>
      exact congrArg (Except.map doubleClick) (readPlace_encodeOption rfl)
  | type text => rfl
  | key keys => rfl
  | scroll place direction amount =>
      have bound : (amount.toNat : Int) < 4294967296 := Int.ofNat_lt.mpr amount.toNat_lt
      have counted := readClickCount_int (Int.natCast_nonneg amount.toNat) bound
      rw [Int.toNat_natCast, UInt32.ofNat_toNat] at counted
      have worded : ∀ rest : Parameters,
          readDirection (("action", .string "scroll") :: ("amount", .nat amount.toNat) ::
            ("coordinate", Coordinate.encodeOption place) ::
              ("direction", direction.encode) :: rest) = .ok direction := by
        intro rest
        cases direction <;> rfl
      change (do
        let place ← readPlace _
        let direction ← readDirection _
        let amount ← readClickCount (.int amount.toNat)
        return scroll place direction amount) = _
      rw [readPlace_encodeOption rfl, worded [], counted]
      rfl
  | mouseMove place =>
      have moved : Json.lookup "coordinate"
          [("action", Json.string "mouse_move"), ("coordinate", place.encode)] =
            some (Coordinate.encodeOption (some place)) := rfl
      have required : requirePlace "mouse_move"
          [("action", .string "mouse_move"), ("coordinate", place.encode)] = .ok place := by
        rw [requirePlace, readPlace_encodeOption moved]
        rfl
      exact congrArg (Except.map mouseMove) required
  | screenshot => rfl
  | cursorPosition => rfl
  | unknown name => exact absurd rfl (known name)

/-- Reading freely extends the wire form: known actions are read back from it, an unknown one as the
action that it names, and an object with the name of its action that has the wire form of a known
action is read as that action, provided that a scroll gives its direction by a word. -/
theorem ofInput_extends_decode :
    (∀ action : Action, (∀ name, action ≠ .unknown name) →
      ofInput action.encode = .ok action) ∧
    (∀ name : String, ofInput (unknown name).encode = .ok (.unknown "unknown")) ∧
    (∀ (source : Source) (parameters : Parameters) (name : String) (action : Action),
      Json.lookup "action" parameters = some (.string name) →
      (name = "scroll" →
        ∃ word, Json.lookup "direction" parameters = some (.string word)) →
      decode source (.object parameters) = .ok action →
      (∀ name, action ≠ .unknown name) →
      ofInput (.object parameters) = .ok action) := by
  refine ⟨?_, ?_, ?_⟩
  · intro action known
    exact ofInput_encode known
  · intro name
    rfl
  · intro source parameters name action named directed read known
    exact ofInput_of_decode named directed read known

/-- The wire form of a scroll, with its coordinate as a pair, the least integer in it, the greatest
amount, and members that count for nothing. -/
def pairedScroll : Parameters :=
  [("action", .string "scroll"), ("amount", .nat 4294967295),
    ("coordinate", .array [.int (-9223372036854775808), .int 7]),
    ("direction", .string "left"), ("scroll_amount", .string "many"), ("x", .null)]

theorem ofInput_extends_pairedScroll :
    decode .direct (.object pairedScroll) =
        .ok (.scroll (some ⟨-9223372036854775808, 7⟩) .left 4294967295) ∧
      ofInput (.object pairedScroll) =
        .ok (.scroll (some ⟨-9223372036854775808, 7⟩) .left 4294967295) ∧
      ofInput (mouseMove ⟨-1, 2⟩).encode = .ok (.mouseMove ⟨-1, 2⟩) := by
  obtain ⟨back, _, wider⟩ := ofInput_extends_decode
  have read : decode .direct (.object pairedScroll) =
      .ok (.scroll (some ⟨-9223372036854775808, 7⟩) .left 4294967295) := rfl
  refine ⟨read, ?_, back _ nofun⟩
  exact wider .direct pairedScroll "scroll" _ rfl (fun _ => ⟨"left", rfl⟩) read nofun

end Action

end DesktopAgent
