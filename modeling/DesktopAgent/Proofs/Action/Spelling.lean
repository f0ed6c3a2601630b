import DesktopAgent.Proofs.Action.Agreement
import DesktopAgent.Proofs.Action.Omission

/-!
Spellings of one tool input.

A coordinate may be a pair or an object, an integer a number or a numeral in a string, and some
parameters have a second name. Inputs that differ only in this are read alike: as the same action,
or with the same error.
-/

namespace DesktopAgent

open DesktopAgent.Text

theorem Json.lookup_insert_self (key : String) (value : Json) (members : List (String × Json)) :
    lookup key (insert key value members) = some value := by
  rw [lookup_insert, if_pos rfl]

theorem Json.lookup_insert_of_ne
    {key name : String} (other : name ≠ key) (value : Json) (members : List (String × Json)) :
    lookup name (insert key value members) = lookup name members := by
  rw [lookup_insert, if_neg (Ne.symm other)]

namespace Action

variable {first second : Parameters}

/-- Parameters that do not differ in what is read of them for an action of a name. -/
structure Alike (name : String) (first second : Parameters) : Prop where
  place : readPlace first = readPlace second
  text : name = "type" → Json.lookup "text" first = Json.lookup "text" second
  keys : valueOf ["key", "text"] first = valueOf ["key", "text"] second
  direction : valueOf ["direction", "scroll_direction"] first =
    valueOf ["direction", "scroll_direction"] second
  amount : readAmount first = readAmount second

theorem ofParameters_of_alike {name : String} (alike : Alike name first second) :
    ofParameters name first = ofParameters name second := by
  have samePlace := alike.place
  by_cases known : name ∈ vocabulary
  · simp only [vocabulary, List.mem_cons, List.not_mem_nil, or_false] at known
    rcases known with rfl | rfl | rfl | rfl | rfl | rfl | rfl | rfl | rfl
    · exact congrArg (Except.map leftClick) samePlace
    · exact congrArg (Except.map rightClick) samePlace
    · exact congrArg (Except.map doubleClick) samePlace
    · have sameText : requireText "type" "text" first = requireText "type" "text" second := by
        rw [requireText, requireText, Json.lookupText, Json.lookupText, alike.text rfl]
      exact congrArg (Except.map type) sameText
    · have sameKeys : readKeys first = readKeys second := by
        rw [readKeys, readKeys, firstPresent_eq, firstPresent_eq, alike.keys]
      exact congrArg (Except.map key) sameKeys
    · have sameDirection : readDirection first = readDirection second := by
        rw [readDirection, readDirection, firstPresent_eq, firstPresent_eq, alike.direction]
      rw [ofParameters_scroll, ofParameters_scroll, samePlace, sameDirection, alike.amount]
    · have required : requirePlace "mouse_move" first = requirePlace "mouse_move" second := by
        rw [requirePlace, requirePlace, samePlace]
      exact congrArg (Except.map mouseMove) required
    · rfl
    · rfl
  · rw [ofParameters_of_unknown known, ofParameters_of_unknown known]

theorem ofInput_of_alike
    (sameAction : Json.lookup "action" first = Json.lookup "action" second)
    (alike : ∀ name, Json.lookup "action" first = some (.string name) → Alike name first second) :
    ofInput (.object first) = ofInput (.object second) := by
  rcases wordless_or (Json.lookup "action" first) with nameless | ⟨name, named⟩
  · rw [ofInput_of_nameless nameless, ofInput_of_nameless (sameAction ▸ nameless)]
  · rw [ofInput_of_named named, ofInput_of_named (sameAction ▸ named)]
    exact ofParameters_of_alike (alike name named)

theorem valueOf_congr
    {names : List String}
    (same : ∀ name ∈ names, Json.lookup name first = Json.lookup name second) :
    valueOf names first = valueOf names second := by
  induction names with
  | nil => rfl
  | cons name rest inductionHypothesis =>
      have later := inductionHypothesis fun other member =>
        same other (List.mem_cons_of_mem name member)
      unfold valueOf at later ⊢
      rw [List.findSome?_cons, List.findSome?_cons, same name List.mem_cons_self, later]

theorem readPlace_congr
    (same : Json.lookup "coordinate" first = Json.lookup "coordinate" second) :
    readPlace first = readPlace second := by
  rw [readPlace, readPlace, same]

theorem readAmount_congr
    (same : valueOf ["amount", "scroll_amount"] first =
      valueOf ["amount", "scroll_amount"] second) :
    readAmount first = readAmount second := by
  rw [readAmount, readAmount, firstPresent_eq, firstPresent_eq, same]

/-- Members that are the same but for those of some keys. -/
def SameBut (keys : List String) (first second : Parameters) : Prop :=
  ∀ name ∉ keys, Json.lookup name first = Json.lookup name second

theorem SameBut.valueOf
    {keys names : List String} (same : SameBut keys first second)
    (apart : ∀ name ∈ names, name ∉ keys) : valueOf names first = valueOf names second :=
  valueOf_congr fun name member => same name (apart name member)

theorem sameBut_insert (key : String) (value : Json) (parameters : Parameters) :
    SameBut [key] (Json.insert key value parameters) parameters := by
  intro name other
  exact Json.lookup_insert_of_ne (List.ne_of_not_mem_cons other) value parameters

theorem ofInput_of_samePlace
    (same : SameBut ["coordinate"] first second) (place : readPlace first = readPlace second) :
    ofInput (.object first) = ofInput (.object second) := by
  refine ofInput_of_alike (same "action" (by decide)) fun name _ => ?_
  exact {
    place := place
    text := fun _ => same "text" (by decide)
    keys := same.valueOf (by decide)
    direction := same.valueOf (by decide)
    amount := readAmount_congr (same.valueOf (by decide)) }

theorem ofInput_of_sameAmount
    {keys : List String} (among : ∀ key ∈ keys, key = "amount" ∨ key = "scroll_amount")
    (same : SameBut keys first second) (amount : readAmount first = readAmount second) :
    ofInput (.object first) = ofInput (.object second) := by
  have apart {name : String} (notAmount : name ≠ "amount") (notSecond : name ≠ "scroll_amount") :
      name ∉ keys :=
    fun member => (among name member).elim notAmount notSecond
  have present (names : List String)
      (others : ∀ name ∈ names, name ≠ "amount" ∧ name ≠ "scroll_amount") :
      valueOf names first = valueOf names second :=
    same.valueOf fun name member => apart (others name member).1 (others name member).2
  refine ofInput_of_alike (same "action" (apart (by decide) (by decide))) fun name _ => ?_
  exact {
    place := readPlace_congr (same "coordinate" (apart (by decide) (by decide)))
    text := fun _ => same "text" (apart (by decide) (by decide))
    keys := present ["key", "text"] (by decide)
    direction := present ["direction", "scroll_direction"] (by decide)
    amount := amount }

/-- A string that holds the numeral of an integer, among blanks if any. A plus sign may stand before
the numeral of an integer that is not negative. -/
inductive Numbered (n : Int64) : String → Prop
  | plain {before after : List Char} :
      (∀ c ∈ before, isBlank c = true) → (∀ c ∈ after, isBlank c = true) →
      Numbered n (String.ofList (before ++ Numeral.ofInt n.toInt ++ after))
  | signed {before after : List Char} :
      0 ≤ n.toInt →
      (∀ c ∈ before, isBlank c = true) → (∀ c ∈ after, isBlank c = true) →
      Numbered n (String.ofList (before ++ '+' :: Numeral.ofInt n.toInt ++ after))

theorem denotes_plus {n : Int} (natural : 0 ≤ n) : Numeral.Denotes ('+' :: Numeral.ofInt n) n := by
  obtain ⟨n, rfl⟩ := Int.eq_ofNat_of_zero_le natural
  have denotes : Numeral.Denotes ('+' :: Numeral.ofNat n) (Numeral.value (Numeral.ofNat n)) :=
    .positive (Numeral.ofNat_ne_nil n) (Numeral.isDigit_of_mem_ofNat n)
  rw [Numeral.value_ofNat] at denotes
  exact denotes

theorem Numbered.spells {n : Int64} {text : String} (numbered : Numbered n text) :
    Spells (.string text) n := by
  cases numbered with
  | plain blanksBefore blanksAfter =>
      exact .numeral String.toList_ofList blanksBefore blanksAfter (Numeral.denotes_ofInt n.toInt)
  | signed natural blanksBefore blanksAfter =>
      exact .numeral String.toList_ofList blanksBefore blanksAfter (denotes_plus natural)

theorem readInteger_of_numbered
    {n : Int64} {text : String} (numbered : Numbered n text) (parameter : String) :
    readInteger parameter (.string text) = readInteger parameter (.int n.toInt) := by
  rw [readInteger_int]
  exact ((readInteger_settles parameter _).ok_iff n).mpr numbered.spells

theorem readClickCount_of_numbered
    {n : Int64} {text : String} (numbered : Numbered n text) :
    readClickCount (.string text) = readClickCount (.int n.toInt) := by
  rw [readClickCount, readClickCount, readInteger_of_numbered numbered]

/-- Two ways to write a coordinate: as a pair and as an object of the same components, whatever
these are, or with an integer component as a number and as a numeral. -/
inductive Respelled : Json → Json → Prop
  | named (x y : Json) : Respelled (.array [x, y]) (.object [("x", x), ("y", y)])
  | first {n : Int64} {text : String} (y : Json) :
      Numbered n text → Respelled (.array [.int n.toInt, y]) (.array [.string text, y])
  | second {n : Int64} {text : String} (x : Json) :
      Numbered n text → Respelled (.array [x, .int n.toInt]) (.array [x, .string text])
  | member {n : Int64} {text key : String} {members : List (String × Json)} {x y : Json} :
      key = "x" ∨ key = "y" → Json.lookup "x" members = some x → Json.lookup "y" members = some y →
      Json.lookup key members = some (.int n.toInt) → Numbered n text →
      Respelled (.object members) (.object (Json.insert key (.string text) members))

/-- The components of a coordinate, as they are written one way and the other, are read alike. -/
theorem Respelled.exists_pairs {value other : Json} (respelled : Respelled value other) :
    ∃ x y x' y', Pair value x y ∧ Pair other x' y' ∧
      (∀ parameter, readInteger parameter x' = readInteger parameter x) ∧
      ∀ parameter, readInteger parameter y' = readInteger parameter y := by
  cases respelled with
  | named x y =>
      exact ⟨x, y, x, y, .ordered x y, .named rfl rfl, fun _ => rfl, fun _ => rfl⟩
  | first y numbered =>
      exact ⟨_, y, _, y, .ordered _ y, .ordered _ y, readInteger_of_numbered numbered, fun _ => rfl⟩
  | second x numbered =>
      exact ⟨x, _, x, _, .ordered x _, .ordered x _, fun _ => rfl, readInteger_of_numbered numbered⟩
  | @member n text key members x y isComponent isX isY isInteger numbered =>
      have changed := Json.lookup_insert_self key (.string text) members
      have kept {name : String} (unchanged : name ≠ key) :=
        Json.lookup_insert_of_ne unchanged (.string text) members
      rcases isComponent with rfl | rfl
      · obtain rfl : .int n.toInt = x := Option.some.inj (isInteger.symm.trans isX)
        have isSecond := (kept (by decide : "y" ≠ "x")).trans isY
        exact ⟨_, y, _, y, .named isX isY, .named changed isSecond,
          readInteger_of_numbered numbered, fun _ => rfl⟩
      · obtain rfl : .int n.toInt = y := Option.some.inj (isInteger.symm.trans isY)
        have isFirst := (kept (by decide : "x" ≠ "y")).trans isX
        exact ⟨x, _, x, _, .named isX isY, .named isFirst changed, fun _ => rfl,
          readInteger_of_numbered numbered⟩

theorem ofInput_of_respelled
    {parameters : Parameters} {value other : Json}
    (present : Json.lookup "coordinate" parameters = some value)
    (respelled : Respelled value other) :
    ofInput (.object (Json.insert "coordinate" other parameters)) =
      ofInput (.object parameters) := by
  obtain ⟨x, y, x', y', pair, otherPair, sameX, sameY⟩ := respelled.exists_pairs
  refine ofInput_of_samePlace (sameBut_insert _ _ _) ?_
  rw [readPlace_of_pair (Json.lookup_insert_self _ _ _) otherPair, readPlace_of_pair present pair,
    sameX, sameY]

theorem readAmount_insert
    {parameters : Parameters} {key : String} {n : Int64} {text : String}
    (isAmount : key = "amount" ∨ key = "scroll_amount")
    (present : Json.lookup key parameters = some (.int n.toInt)) (numbered : Numbered n text) :
    readAmount (Json.insert key (.string text) parameters) = readAmount parameters := by
  have changed := Json.lookup_insert_self key (.string text) parameters
  have counts {first second : Parameters}
      (isText : valueOf ["amount", "scroll_amount"] first = some (.string text))
      (isInteger : valueOf ["amount", "scroll_amount"] second = some (.int n.toInt)) :
      readAmount first = readAmount second := by
    rw [readAmount_of_value isText nofun, readAmount_of_value isInteger nofun,
      readClickCount_of_numbered numbered]
  rcases isAmount with rfl | rfl
  · exact counts (valueOf_of_first changed) (valueOf_of_first present)
  · -- The second name counts only where the first one is absent.
    have kept := Json.lookup_insert_of_ne (by decide : "amount" ≠ "scroll_amount") (.string text)
      parameters
    cases earlier : Json.lookup "amount" parameters with
    | some value =>
        refine readAmount_congr ?_
        rw [valueOf_of_first (kept.trans earlier), valueOf_of_first earlier]
    | none =>
        refine counts ?_ ?_
        · rw [valueOf_of_second (kept.trans earlier), changed]
        · rw [valueOf_of_second earlier, present]

/-- The parameters with one of them under a second name, in place of what stood there. -/
def renamed (name second : String) (parameters : Parameters) : Parameters :=
  match Json.lookup name parameters with
  | some value => Json.insert second value (Wire.Variant.withoutTag name parameters)
  | none => parameters

section

variable {name second : String} {parameters : Parameters}

theorem lookup_withoutTag_self :
    Json.lookup name (Wire.Variant.withoutTag name parameters) = none := by
  refine Json.lookup_eq_none ?_
  intro member
  obtain ⟨found, isMember, isName⟩ := List.mem_map.mp member
  have other := (List.mem_filter.mp isMember).2
  simp [isName] at other

theorem sameBut_renamed : SameBut [name, second] (renamed name second parameters) parameters := by
  intro other apart
  simp only [List.mem_cons, List.not_mem_nil, or_false, not_or] at apart
  unfold renamed
  split
  · rw [Json.lookup_insert_of_ne apart.2, Wire.Variant.lookup_withoutTag apart.1]
  · rfl

/-- Under its second name a parameter has the value that it had under the first. -/
theorem valueOf_renamed (different : name ≠ second) :
    valueOf [name, second] (renamed name second parameters) =
      valueOf [name, second] parameters := by
  unfold renamed
  cases found : Json.lookup name parameters with
  | none => rfl
  | some value =>
      have gone : Json.lookup name (Json.insert second value
          (Wire.Variant.withoutTag name parameters)) = none := by
        rw [Json.lookup_insert_of_ne different, lookup_withoutTag_self]
      rw [valueOf_of_second gone, Json.lookup_insert_self, valueOf_of_first found]

end

theorem ofInput_renamed_key
    {parameters : Parameters} (named : Json.lookup "action" parameters = some (.string "key")) :
    ofInput (.object (renamed "key" "text" parameters)) = ofInput (.object parameters) := by
  have same : SameBut ["key", "text"] (renamed "key" "text" parameters) parameters :=
    sameBut_renamed
  have sameAction := same "action" (by decide)
  refine ofInput_of_alike sameAction fun name isName => ?_
  rw [sameAction, named] at isName
  cases isName
  exact {
    place := readPlace_congr (same "coordinate" (by decide))
    text := fun isType => absurd isType (by decide)
    keys := valueOf_renamed (by decide)
    direction := same.valueOf (by decide)
    amount := readAmount_congr (same.valueOf (by decide)) }

theorem ofInput_renamed_direction (parameters : Parameters) :
    ofInput (.object (renamed "direction" "scroll_direction" parameters)) =
      ofInput (.object parameters) := by
  have same : SameBut ["direction", "scroll_direction"]
      (renamed "direction" "scroll_direction" parameters) parameters := sameBut_renamed
  refine ofInput_of_alike (same "action" (by decide)) fun name _ => ?_
  exact {
    place := readPlace_congr (same "coordinate" (by decide))
    text := fun _ => same "text" (by decide)
    keys := same.valueOf (by decide)
    direction := valueOf_renamed (by decide)
    amount := readAmount_congr (same.valueOf (by decide)) }

theorem ofInput_renamed_amount (parameters : Parameters) :
    ofInput (.object (renamed "amount" "scroll_amount" parameters)) =
      ofInput (.object parameters) :=
  ofInput_of_sameAmount (by decide) sameBut_renamed
    (readAmount_congr (valueOf_renamed (by decide)))

/-- A tool input is read alike, as the same action or with the same error, when its coordinate is
written the other way, when an integer amount is written as a numeral, and when a parameter stands
under its second name instead of the first. Keys to press must be those of a key action, since a
text to type has no second name. -/
theorem ofInput_spelled_alike :
    (∀ (parameters : Parameters) (value other : Json),
      Json.lookup "coordinate" parameters = some value → Respelled value other →
      ofInput (.object (Json.insert "coordinate" other parameters)) =
        ofInput (.object parameters)) ∧
    (∀ (parameters : Parameters) (key : String) (n : Int64) (text : String),
      key = "amount" ∨ key = "scroll_amount" →
      Json.lookup key parameters = some (.int n.toInt) → Numbered n text →
      ofInput (.object (Json.insert key (.string text) parameters)) =
        ofInput (.object parameters)) ∧
    (∀ parameters : Parameters, Json.lookup "action" parameters = some (.string "key") →
      ofInput (.object (renamed "key" "text" parameters)) = ofInput (.object parameters)) ∧
    ∀ parameters : Parameters,
      ofInput (.object (renamed "direction" "scroll_direction" parameters)) =
          ofInput (.object parameters) ∧
        ofInput (.object (renamed "amount" "scroll_amount" parameters)) =
          ofInput (.object parameters) := by
  refine ⟨?_, ?_, ?_, ?_⟩
  · intro parameters value other present respelled
    exact ofInput_of_respelled present respelled
  · intro parameters key n text isAmount present numbered
    refine ofInput_of_sameAmount ?_ (sameBut_insert key _ parameters)
      (readAmount_insert isAmount present numbered)
    intro other member
    rw [List.mem_singleton.mp member]
    exact isAmount
  · intro parameters named
    exact ofInput_renamed_key named
  · intro parameters
    exact ⟨ofInput_renamed_direction parameters, ofInput_renamed_amount parameters⟩

/-- A scroll by more steps than there can be, at a place with a component that is no integer. -/
def wildScroll : Parameters :=
  [("action", .string "scroll"), ("amount", .int 4294967296),
    ("coordinate", .object [("x", .int (-9223372036854775808)), ("y", .string "here")]),
    ("direction", .string "up")]

/-- Both faults of the scroll stay what they are: that of its coordinate while it has one, and that
of its amount after it. The keys to press are found under their second name. -/
theorem ofInput_spelled_alike_wildScroll :
    ofInput (.object (Json.insert "coordinate"
      (.object [("x", .string "\u00a0-9223372036854775808"), ("y", .string "here")]) wildScroll)) =
        .error (.invalidParameter "coordinate" (.notAnInteger (.string "here"))) ∧
    ofInput (.object (Json.insert "amount" (.string " +4294967296\n")
      (Json.insert "coordinate" .null wildScroll))) =
        .error (.invalidParameter "amount" (.notAClickCount 4294967296)) ∧
    ofInput (.object (renamed "key" "text" [("action", .string "key"), ("key", .string "a")])) =
      .ok (.key "a") := by
  obtain ⟨places, amounts, keys, _⟩ := ofInput_spelled_alike
  have least : Numbered (-9223372036854775808) "\u00a0-9223372036854775808" := by
    have text : "\u00a0-9223372036854775808" =
        String.ofList (['\u00a0'] ++ Numeral.ofInt (-9223372036854775808 : Int64).toInt ++ []) := by
      decide +kernel
    rw [text]
    exact .plain (List.forall_mem_singleton.mpr rfl) (List.forall_mem_nil _)
  have many : Numbered 4294967296 " +4294967296\n" := by
    have text : " +4294967296\n" =
        String.ofList ([' '] ++ '+' :: Numeral.ofInt (4294967296 : Int64).toInt ++ ['\n']) := by
      decide +kernel
    rw [text]
    exact .signed (by decide) (List.forall_mem_singleton.mpr rfl)
      (List.forall_mem_singleton.mpr rfl)
  refine ⟨?_, ?_, ?_⟩
  · exact (places wildScroll _ _ rfl (.member (Or.inl rfl) rfl rfl rfl least)).trans rfl
  · exact (amounts (Json.insert "coordinate" .null wildScroll) "amount" 4294967296 _ (Or.inl rfl)
      rfl many).trans rfl
  · exact (keys [("action", .string "key"), ("key", .string "a")] rfl).trans rfl

end Action

end DesktopAgent
