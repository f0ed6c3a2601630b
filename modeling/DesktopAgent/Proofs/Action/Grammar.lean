import DesktopAgent.Proofs.Action.Integer

/-!
Which tool inputs are actions.

The grammar says of each name which parameters it needs and what their values may be, and which
error answers an input that does not keep to it. Of several faults the error tells the first, in the
order of coordinate, direction and amount, and within a coordinate in the order of its components.
-/

namespace DesktopAgent.Action

variable {parameters : Parameters} {name : String}

/-- The value of the first of some names that is present. -/
def valueOf (names : List String) (parameters : Parameters) : Option Json :=
  names.findSome? fun name => Json.lookup name parameters

theorem firstPresent_eq (name second : String) (parameters : Parameters) :
    firstPresent name second parameters = valueOf [name, second] parameters := by
  unfold firstPresent valueOf
  cases found : Json.lookup name parameters with
  | none => cases later : Json.lookup second parameters <;> simp [found, later]
  | some value => simp [found]

/-- A parameter that is not there, or is null. -/
inductive Missing : Option Json → Prop
  | absent : Missing none
  | null : Missing (some .null)

/-! ## Coordinates -/

/-- A value with two components. -/
inductive Pair : Json → Json → Json → Prop
  | ordered (x y : Json) : Pair (.array [x, y]) x y
  | named {members : List (String × Json)} {x y : Json} :
      Json.lookup "x" members = some x → Json.lookup "y" members = some y →
      Pair (.object members) x y

/-- A value without two components, and what is wrong with it. -/
inductive NoPair : Json → InvalidReason → Prop
  | unnamed {members : List (String × Json)} :
      Json.lookup "x" members = none ∨ Json.lookup "y" members = none →
      NoPair (.object members) (.withoutXAndY (.object members))
  | other {value : Json} :
      (∀ members, value ≠ .object members) → (∀ x y, value ≠ .array [x, y]) →
      NoPair value (.notAPair value)

/-- The coordinate that a parameter gives; a missing one gives none. -/
inductive Places : Option Json → Option Coordinate → Prop
  | missing {found : Option Json} : Missing found → Places found none
  | pair {value x y : Json} {place : Coordinate} :
      Pair value x y → Spells x place.x → Spells y place.y → Places (some value) (some place)

/-- A parameter that is wrong for a coordinate, and its error. -/
inductive Misplaces : Option Json → InputError → Prop
  | shape {value : Json} {reason : InvalidReason} :
      value ≠ .null → NoPair value reason →
      Misplaces (some value) (.invalidParameter "coordinate" reason)
  | first {value x y : Json} :
      Pair value x y → (∀ n, ¬ Spells x n) →
      Misplaces (some value) (.invalidParameter "coordinate" (.notAnInteger x))
  | second {value x y : Json} {n : Int64} :
      Pair value x y → Spells x n → (∀ n, ¬ Spells y n) →
      Misplaces (some value) (.invalidParameter "coordinate" (.notAnInteger y))

theorem Places.missing_of_none {found : Option Json} (places : Places found none) :
    Missing found := by
  cases places with
  | missing missing => exact missing

theorem pair_or_noPair (value : Json) :
    (∃ x y, Pair value x y) ∨ ∃ reason, NoPair value reason := by
  cases value with
  | object members =>
      cases isX : Json.lookup "x" members with
      | none => exact Or.inr ⟨_, .unnamed (Or.inl isX)⟩
      | some x =>
          cases isY : Json.lookup "y" members with
          | none => exact Or.inr ⟨_, .unnamed (Or.inr isY)⟩
          | some y => exact Or.inl ⟨x, y, .named isX isY⟩
  | array items =>
      rcases items with _ | ⟨x, _ | ⟨y, _ | ⟨z, rest⟩⟩⟩
      · exact Or.inr ⟨_, .other nofun nofun⟩
      · exact Or.inr ⟨_, .other nofun nofun⟩
      · exact Or.inl ⟨x, y, .ordered x y⟩
      · exact Or.inr ⟨_, .other nofun nofun⟩
  | null | boolean _ | number _ | string _ => exact Or.inr ⟨_, .other nofun nofun⟩

theorem Pair.ne_null {value x y : Json} (pair : Pair value x y) : value ≠ .null := by
  cases pair <;> exact nofun

theorem components_of_pair {value x y : Json} (pair : Pair value x y) :
    components value = .ok (x, y) := by
  cases pair with
  | ordered => rfl
  | named isX isY => simp only [components, isX, isY]

theorem components_of_noPair {value : Json} {reason : InvalidReason}
    (noPair : NoPair value reason) :
    components value = .error (.invalidParameter "coordinate" reason) := by
  cases noPair with
  | @unnamed members incomplete =>
      rcases incomplete with noX | noY
      · simp only [components, noX]
      · cases isX : Json.lookup "x" members <;> simp only [components, isX, noY]
  | other noObject noArray =>
      unfold components
      split
      next x y => exact absurd rfl (noArray x y)
      next members => exact absurd rfl (noObject members)
      next => rfl

section

variable {value : Json} (present : Json.lookup "coordinate" parameters = some value)

include present

theorem readPlace_of_noPair
    {reason : InvalidReason} (said : value ≠ .null) (noPair : NoPair value reason) :
    readPlace parameters = .error (.invalidParameter "coordinate" reason) := by
  unfold readPlace
  rw [present]
  cases value with
  | null => exact absurd rfl said
  | _ =>
      simp only [components_of_noPair noPair]
      rfl

theorem readPlace_of_pair {x y : Json} (pair : Pair value x y) :
    readPlace parameters = (do
      let n ← readInteger "coordinate" x
      let m ← readInteger "coordinate" y
      return some ⟨n, m⟩) := by
  unfold readPlace
  rw [present]
  cases value with
  | null => exact absurd rfl pair.ne_null
  | _ =>
      simp only [components_of_pair pair]
      rfl

end

/-- A coordinate is read from what gives one, and its first fault is told otherwise. -/
theorem readPlace_settles (parameters : Parameters) :
    Settles (readPlace parameters) (Places (Json.lookup "coordinate" parameters))
      (Misplaces (Json.lookup "coordinate" parameters)) := by
  have integers := readInteger_settles "coordinate"
  generalize present : Json.lookup "coordinate" parameters = found
  refine .of_total ?_ ?_ ?_
  · cases found with
    | none => exact Or.inl ⟨none, .missing .absent⟩
    | some value =>
        by_cases null : value = .null
        · rw [null]
          exact Or.inl ⟨none, .missing .null⟩
        · rcases pair_or_noPair value with ⟨x, y, pair⟩ | ⟨_, noPair⟩
          · rcases (integers x).total with ⟨n, isX⟩ | ⟨_, noX, _⟩
            · rcases (integers y).total with ⟨m, isY⟩ | ⟨_, noY, _⟩
              · exact Or.inl ⟨some ⟨n, m⟩, .pair pair isX isY⟩
              · exact Or.inr ⟨_, .second pair isX noY⟩
            · exact Or.inr ⟨_, .first pair noX⟩
          · exact Or.inr ⟨_, .shape null noPair⟩
  · rintro place (missing | ⟨pair, isX, isY⟩)
    · unfold readPlace
      rw [present]
      cases missing <;> rfl
    · rw [readPlace_of_pair present pair, ((integers _).ok_iff _).mpr isX,
        ((integers _).ok_iff _).mpr isY]
      rfl
  · rintro problem (⟨said, noPair⟩ | ⟨pair, noX⟩ | ⟨pair, isX, noY⟩)
    · exact readPlace_of_noPair present said noPair
    · rw [readPlace_of_pair present pair, ((integers _).error_iff _).mpr ⟨noX, rfl⟩]
      rfl
    · rw [readPlace_of_pair present pair, ((integers _).ok_iff _).mpr isX,
        ((integers _).error_iff _).mpr ⟨noY, rfl⟩]
      rfl

/-- The direction that a parameter gives. -/
inductive Directs : Option Json → ScrollDirection → Prop
  | word (direction : ScrollDirection) : Directs (some (.string direction.name)) direction

/-- A parameter that gives no direction, and its error. -/
inductive Misdirects : Option Json → InputError → Prop
  | wordless {found : Option Json} :
      (∀ word, found ≠ some (.string word)) →
      Misdirects found (.missingParameter "scroll" "direction")
  | unknown {word : String} :
      (∀ direction : ScrollDirection, direction.name ≠ word) →
      Misdirects (some (.string word)) (.invalidParameter "direction" (.unknownDirection word))

theorem ofName?_name (direction : ScrollDirection) :
    ScrollDirection.ofName? direction.name = some direction := by
  cases direction <;> rfl

theorem text?_of_wordless {found : Option Json} (wordless : ∀ word, found ≠ some (.string word)) :
    found.bind Json.text? = none := by
  rcases found with _ | value
  · rfl
  · cases value with
    | string word => exact absurd rfl (wordless word)
    | _ => rfl

theorem wordless_or (found : Option Json) :
    (∀ word, found ≠ some (.string word)) ∨ ∃ word, found = some (.string word) := by
  by_cases worded : ∃ word, found = some (.string word)
  · exact Or.inr worded
  · exact Or.inl fun word isWord => worded ⟨word, isWord⟩

theorem readDirection_settles (parameters : Parameters) :
    Settles (readDirection parameters)
      (Directs (valueOf ["direction", "scroll_direction"] parameters))
      (Misdirects (valueOf ["direction", "scroll_direction"] parameters)) := by
  unfold readDirection
  rw [firstPresent_eq]
  generalize valueOf ["direction", "scroll_direction"] parameters = found
  refine .of_total ?_ ?_ ?_
  · rcases wordless_or found with wordless | ⟨word, rfl⟩
    · exact Or.inr ⟨_, .wordless wordless⟩
    · by_cases known : ∃ direction : ScrollDirection, direction.name = word
      · obtain ⟨direction, rfl⟩ := known
        exact Or.inl ⟨direction, .word direction⟩
      · exact Or.inr ⟨_, .unknown fun direction same => known ⟨direction, same⟩⟩
  · rintro direction ⟨⟩
    simp only [Option.bind_some, Json.text?, ofName?_name]
  · rintro problem (wordless | @⟨word, unknown⟩)
    · simp only [text?_of_wordless wordless]
    · have notFound : ScrollDirection.ofName? word = none := by
        refine List.find?_eq_none.mpr ?_
        intro direction _ same
        exact unknown direction (of_decide_eq_true same)
      simp only [Option.bind_some, Json.text?, notFound]

/-- The number of steps that a parameter gives; a missing one gives three. -/
inductive Counts : Option Json → UInt32 → Prop
  | missing {found : Option Json} : Missing found → Counts found 3
  | integer {value : Json} {n : Int64} {amount : UInt32} :
      Spells value n → n.toInt = amount.toNat → Counts (some value) amount

/-- A parameter that gives no number of steps, and its error. -/
inductive Miscounts : Option Json → InputError → Prop
  | noInteger {value : Json} :
      value ≠ .null → (∀ n, ¬ Spells value n) →
      Miscounts (some value) (.invalidParameter "amount" (.notAnInteger value))
  | outside {value : Json} {n : Int64} :
      Spells value n → ¬ (0 ≤ n.toInt ∧ n.toInt < 2 ^ 32) →
      Miscounts (some value) (.invalidParameter "amount" (.notAClickCount n))

theorem Spells.ne_null {value : Json} {n : Int64} (spells : Spells value n) : value ≠ .null := by
  cases spells <;> exact nofun

/-- An amount that is there is read as a number of steps. -/
theorem readAmount_of_value
    {value : Json} (present : valueOf ["amount", "scroll_amount"] parameters = some value)
    (said : value ≠ .null) : readAmount parameters = readClickCount value := by
  unfold readAmount
  rw [firstPresent_eq, present]
  cases value with
  | null => exact absurd rfl said
  | _ => rfl

theorem readAmount_settles (parameters : Parameters) :
    Settles (readAmount parameters)
      (Counts (valueOf ["amount", "scroll_amount"] parameters))
      (Miscounts (valueOf ["amount", "scroll_amount"] parameters)) := by
  have integers := readInteger_settles "amount"
  generalize present : valueOf ["amount", "scroll_amount"] parameters = found
  refine .of_total ?_ ?_ ?_
  · cases found with
    | none => exact Or.inl ⟨3, .missing .absent⟩
    | some value =>
        by_cases null : value = .null
        · rw [null]
          exact Or.inl ⟨3, .missing .null⟩
        · rcases (integers value).total with ⟨n, spells⟩ | ⟨_, none, _⟩
          · by_cases inside : 0 ≤ n.toInt ∧ n.toInt < 2 ^ 32
            · have small : n.toInt.toNat < UInt32.size := by
                unfold UInt32.size
                omega
              refine Or.inl ⟨UInt32.ofNat n.toInt.toNat, .integer spells ?_⟩
              rw [UInt32.toNat_ofNat_of_lt' small, Int.toNat_of_nonneg inside.1]
            · exact Or.inr ⟨_, .outside spells inside⟩
          · exact Or.inr ⟨_, .noInteger null none⟩
  · rintro amount (missing | ⟨spells, same⟩)
    · unfold readAmount
      rw [firstPresent_eq, present]
      cases missing <;> rfl
    · have bound := amount.toNat_lt
      rw [readAmount_of_value present spells.ne_null, readClickCount,
        ((integers _).ok_iff _).mpr spells]
      change (if 0 ≤ _ ∧ _ < 4294967296 then Except.ok _ else _) = _
      rw [if_pos ⟨by omega, by omega⟩, same, Int.toNat_natCast, UInt32.ofNat_toNat]
  · rintro problem (⟨said, none⟩ | ⟨spells, outside⟩)
    · rw [readAmount_of_value present said, readClickCount,
        ((integers _).error_iff _).mpr ⟨none, rfl⟩]
      rfl
    · rw [readAmount_of_value present spells.ne_null, readClickCount,
        ((integers _).ok_iff _).mpr spells]
      exact if_neg outside

/-! ## Actions -/

/-- The names of the actions that have a coordinate. -/
def placed : List String := ["left_click", "right_click", "double_click", "scroll", "mouse_move"]

/-- The action that parameters give under a name. -/
inductive Admitted (parameters : Parameters) : String → Action → Prop
  | leftClick {place : Option Coordinate} :
      Places (Json.lookup "coordinate" parameters) place →
      Admitted parameters "left_click" (.leftClick place)
  | rightClick {place : Option Coordinate} :
      Places (Json.lookup "coordinate" parameters) place →
      Admitted parameters "right_click" (.rightClick place)
  | doubleClick {place : Option Coordinate} :
      Places (Json.lookup "coordinate" parameters) place →
      Admitted parameters "double_click" (.doubleClick place)
  | type {text : String} :
      Json.lookup "text" parameters = some (.string text) →
      Admitted parameters "type" (.type text)
  | key {keys : String} :
      valueOf ["key", "text"] parameters = some (.string keys) →
      Admitted parameters "key" (.key keys)
  | scroll {place : Option Coordinate} {direction : ScrollDirection} {amount : UInt32} :
      Places (Json.lookup "coordinate" parameters) place →
      Directs (valueOf ["direction", "scroll_direction"] parameters) direction →
      Counts (valueOf ["amount", "scroll_amount"] parameters) amount →
      Admitted parameters "scroll" (.scroll place direction amount)
  | mouseMove {place : Coordinate} :
      Places (Json.lookup "coordinate" parameters) (some place) →
      Admitted parameters "mouse_move" (.mouseMove place)
  | screenshot : Admitted parameters "screenshot" .screenshot
  | cursorPosition : Admitted parameters "cursor_position" .cursorPosition
  | unknown {name : String} : name ∉ vocabulary → Admitted parameters name (.unknown name)

/-- The error of parameters that give no action under a name. -/
inductive Refused (parameters : Parameters) : String → InputError → Prop
  | place {name : String} {problem : InputError} :
      name ∈ placed → Misplaces (Json.lookup "coordinate" parameters) problem →
      Refused parameters name problem
  | unplaced :
      Missing (Json.lookup "coordinate" parameters) →
      Refused parameters "mouse_move" (.missingParameter "mouse_move" "coordinate")
  | text :
      (∀ text, Json.lookup "text" parameters ≠ some (.string text)) →
      Refused parameters "type" (.missingParameter "type" "text")
  | keys :
      (∀ keys, valueOf ["key", "text"] parameters ≠ some (.string keys)) →
      Refused parameters "key" (.missingParameter "key" "key")
  | direction {place : Option Coordinate} {problem : InputError} :
      Places (Json.lookup "coordinate" parameters) place →
      Misdirects (valueOf ["direction", "scroll_direction"] parameters) problem →
      Refused parameters "scroll" problem
  | amount {place : Option Coordinate} {direction : ScrollDirection} {problem : InputError} :
      Places (Json.lookup "coordinate" parameters) place →
      Directs (valueOf ["direction", "scroll_direction"] parameters) direction →
      Miscounts (valueOf ["amount", "scroll_amount"] parameters) problem →
      Refused parameters "scroll" problem

theorem ofParameters_of_unknown (unknown : name ∉ vocabulary) :
    ofParameters name parameters = .ok (.unknown name) := by
  unfold ofParameters
  split
  case h_10 => rfl
  all_goals exact absurd (by decide) unknown

theorem ofParameters_scroll (parameters : Parameters) :
    ofParameters "scroll" parameters = (do
      let place ← readPlace parameters
      let direction ← readDirection parameters
      let amount ← readAmount parameters
      return .scroll place direction amount) :=
  rfl

theorem readKeys_of_keys
    {keys : String} (present : valueOf ["key", "text"] parameters = some (.string keys)) :
    readKeys parameters = .ok keys := by
  rw [readKeys, firstPresent_eq, present]
  rfl

theorem readKeys_of_wordless
    (wordless : ∀ keys, valueOf ["key", "text"] parameters ≠ some (.string keys)) :
    readKeys parameters = .error (.missingParameter "key" "key") := by
  rw [readKeys, firstPresent_eq, text?_of_wordless wordless]

theorem ofParameters_of_admitted {action : Action} (admitted : Admitted parameters name action) :
    ofParameters name parameters = .ok action := by
  have placed := (readPlace_settles parameters).ok_iff
  cases admitted with
  | leftClick places =>
      exact congrArg (Except.map leftClick) ((placed _).mpr places)
  | rightClick places =>
      exact congrArg (Except.map rightClick) ((placed _).mpr places)
  | doubleClick places =>
      exact congrArg (Except.map doubleClick) ((placed _).mpr places)
  | @type text present =>
      have read : requireText "type" "text" parameters = .ok text := by
        rw [requireText, Json.lookupText, present]
        rfl
      exact congrArg (Except.map type) read
  | key present => exact congrArg (Except.map key) (readKeys_of_keys present)
  | scroll places directs counts =>
      rw [ofParameters_scroll, (placed _).mpr places,
        ((readDirection_settles parameters).ok_iff _).mpr directs,
        ((readAmount_settles parameters).ok_iff _).mpr counts]
      rfl
  | @mouseMove place places =>
      have read : requirePlace "mouse_move" parameters = .ok place := by
        rw [requirePlace, (placed _).mpr places]
        rfl
      exact congrArg (Except.map mouseMove) read
  | screenshot => rfl
  | cursorPosition => rfl
  | unknown unknown => exact ofParameters_of_unknown unknown

theorem ofParameters_of_misplaces
    {problem : InputError} (isPlaced : name ∈ placed)
    (misplaces : Misplaces (Json.lookup "coordinate" parameters) problem) :
    ofParameters name parameters = .error problem := by
  have read := ((readPlace_settles parameters).error_iff problem).mpr misplaces
  simp only [placed, List.mem_cons, List.not_mem_nil, or_false] at isPlaced
  rcases isPlaced with rfl | rfl | rfl | rfl | rfl
  · exact congrArg (Except.map leftClick) read
  · exact congrArg (Except.map rightClick) read
  · exact congrArg (Except.map doubleClick) read
  · rw [ofParameters_scroll, read]
    rfl
  · have required : requirePlace "mouse_move" parameters = .error problem := by
      rw [requirePlace, read]
      rfl
    exact congrArg (Except.map mouseMove) required

theorem ofParameters_of_refused {problem : InputError} (refused : Refused parameters name problem) :
    ofParameters name parameters = .error problem := by
  have placed := (readPlace_settles parameters).ok_iff
  cases refused with
  | place isPlaced misplaces => exact ofParameters_of_misplaces isPlaced misplaces
  | unplaced missing =>
      have read : requirePlace "mouse_move" parameters =
          .error (.missingParameter "mouse_move" "coordinate") := by
        rw [requirePlace, (placed none).mpr (.missing missing)]
        rfl
      exact congrArg (Except.map mouseMove) read
  | text wordless =>
      have read : requireText "type" "text" parameters =
          .error (.missingParameter "type" "text") := by
        rw [requireText, Json.lookupText, text?_of_wordless wordless]
      exact congrArg (Except.map type) read
  | keys wordless => exact congrArg (Except.map key) (readKeys_of_wordless wordless)
  | direction places misdirects =>
      rw [ofParameters_scroll, (placed _).mpr places,
        ((readDirection_settles parameters).error_iff _).mpr misdirects]
      rfl
  | amount places directs miscounts =>
      rw [ofParameters_scroll, (placed _).mpr places,
        ((readDirection_settles parameters).ok_iff _).mpr directs,
        ((readAmount_settles parameters).error_iff _).mpr miscounts]
      rfl

theorem admitted_or_misplaces
    {click : Option Coordinate → Action} (isPlaced : name ∈ placed)
    (admits : ∀ place, Places (Json.lookup "coordinate" parameters) place →
      Admitted parameters name (click place)) :
    (∃ action, Admitted parameters name action) ∨
      ∃ problem, Refused parameters name problem := by
  rcases (readPlace_settles parameters).total with ⟨place, places⟩ | ⟨_, misplaces⟩
  · exact Or.inl ⟨_, admits place places⟩
  · exact Or.inr ⟨_, .place isPlaced misplaces⟩

theorem admitted_or_refused (parameters : Parameters) (name : String) :
    (∃ action, Admitted parameters name action) ∨
      ∃ problem, Refused parameters name problem := by
  by_cases known : name ∈ vocabulary
  · simp only [vocabulary, List.mem_cons, List.not_mem_nil, or_false] at known
    rcases known with rfl | rfl | rfl | rfl | rfl | rfl | rfl | rfl | rfl
    · exact admitted_or_misplaces (by decide) fun _ => .leftClick
    · exact admitted_or_misplaces (by decide) fun _ => .rightClick
    · exact admitted_or_misplaces (by decide) fun _ => .doubleClick
    · rcases wordless_or (Json.lookup "text" parameters) with wordless | ⟨text, isText⟩
      · exact Or.inr ⟨_, .text wordless⟩
      · exact Or.inl ⟨_, .type isText⟩
    · rcases wordless_or (valueOf ["key", "text"] parameters) with wordless | ⟨keys, isText⟩
      · exact Or.inr ⟨_, .keys wordless⟩
      · exact Or.inl ⟨_, .key isText⟩
    · rcases (readPlace_settles parameters).total with ⟨place, places⟩ | ⟨_, misplaces⟩
      · rcases (readDirection_settles parameters).total with ⟨direction, directs⟩ | ⟨_, misdirects⟩
        · rcases (readAmount_settles parameters).total with ⟨amount, counts⟩ | ⟨_, miscounts⟩
          · exact Or.inl ⟨_, .scroll places directs counts⟩
          · exact Or.inr ⟨_, .amount places directs miscounts⟩
        · exact Or.inr ⟨_, .direction places misdirects⟩
      · exact Or.inr ⟨_, .place (by decide) misplaces⟩
    · rcases (readPlace_settles parameters).total with ⟨place, places⟩ | ⟨_, misplaces⟩
      · cases place with
        | none => exact Or.inr ⟨_, .unplaced places.missing_of_none⟩
        | some place => exact Or.inl ⟨_, .mouseMove places⟩
      · exact Or.inr ⟨_, .place (by decide) misplaces⟩
    · exact Or.inl ⟨_, .screenshot⟩
    · exact Or.inl ⟨_, .cursorPosition⟩
  · exact Or.inl ⟨_, .unknown known⟩

theorem ofParameters_settles (parameters : Parameters) (name : String) :
    Settles (ofParameters name parameters) (Admitted parameters name) (Refused parameters name) :=
  .of_total (admitted_or_refused parameters name) (fun _ => ofParameters_of_admitted)
    fun _ => ofParameters_of_refused

theorem Admitted.scroll_parts
    {place : Option Coordinate} {direction : ScrollDirection} {amount : UInt32}
    (admitted : Admitted parameters name (.scroll place direction amount)) :
    Places (Json.lookup "coordinate" parameters) place ∧
      Directs (valueOf ["direction", "scroll_direction"] parameters) direction ∧
      Counts (valueOf ["amount", "scroll_amount"] parameters) amount := by
  cases admitted with
  | scroll places directs counts => exact ⟨places, directs, counts⟩

theorem Admitted.counts
    {place : Option Coordinate} {direction : ScrollDirection} {amount : UInt32}
    (admitted : Admitted parameters name (.scroll place direction amount)) :
    Counts (valueOf ["amount", "scroll_amount"] parameters) amount :=
  admitted.scroll_parts.2.2

theorem Refused.scroll_cases
    {problem : InputError} (refused : Refused parameters "scroll" problem) :
    Misplaces (Json.lookup "coordinate" parameters) problem ∨
    Misdirects (valueOf ["direction", "scroll_direction"] parameters) problem ∨
    Miscounts (valueOf ["amount", "scroll_amount"] parameters) problem := by
  generalize named : "scroll" = name at refused
  cases refused with
  | place _ misplaces => exact Or.inl misplaces
  | direction _ misdirects => exact Or.inr (Or.inl misdirects)
  | amount _ _ miscounts => exact Or.inr (Or.inr miscounts)
  | unplaced | text | keys => exact absurd named (by decide)

theorem Admitted.name_eq {action : Action} (admitted : Admitted parameters name action) :
    action.name = name := by
  cases admitted <;> rfl

theorem Admitted.unknown_iff {action : Action} (admitted : Admitted parameters name action) :
    (∃ other, action = .unknown other) ↔ name ∉ vocabulary := by
  cases admitted with
  | unknown unknown => exact ⟨fun _ => unknown, fun _ => ⟨_, rfl⟩⟩
  | _ =>
      refine ⟨nofun, ?_⟩
      intro unknown
      exact absurd (by decide) unknown

/-- The parameter that an error is about. -/
def InputError.parameter? : InputError → Option String
  | .missingParameter _ parameter | .invalidParameter parameter _ => some parameter
  | .notAnObject | .missingAction => none

theorem Misplaces.parameter {found : Option Json} {problem : InputError}
    (misplaces : Misplaces found problem) : problem.parameter? = some "coordinate" := by
  cases misplaces <;> rfl

theorem Misdirects.parameter {found : Option Json} {problem : InputError}
    (misdirects : Misdirects found problem) : problem.parameter? = some "direction" := by
  cases misdirects <;> rfl

theorem Miscounts.parameter {found : Option Json} {problem : InputError}
    (miscounts : Miscounts found problem) : problem.parameter? = some "amount" := by
  cases miscounts <;> rfl

theorem Refused.parameter {problem : InputError} (refused : Refused parameters name problem) :
    ∃ parameter, problem.parameter? = some parameter := by
  cases refused with
  | place _ misplaces => exact ⟨_, misplaces.parameter⟩
  | direction _ misdirects => exact ⟨_, misdirects.parameter⟩
  | amount _ _ miscounts => exact ⟨_, miscounts.parameter⟩
  | unplaced | text | keys => exact ⟨_, rfl⟩

theorem ofInput_of_named (named : Json.lookup "action" parameters = some (.string name)) :
    ofInput (.object parameters) = ofParameters name parameters := by
  have isName : Json.lookupText "action" parameters = some name := by
    rw [Json.lookupText, named]
    rfl
  simp only [ofInput, isName]

theorem ofInput_of_nameless
    (nameless : ∀ name, Json.lookup "action" parameters ≠ some (.string name)) :
    ofInput (.object parameters) = .error .missingAction := by
  have noName : Json.lookupText "action" parameters = none := text?_of_wordless nameless
  simp only [ofInput, noName]

theorem ofInput_of_notAnObject {value : Json}
    (noObject : ∀ parameters, value ≠ .object parameters) :
    ofInput value = .error .notAnObject := by
  cases value with
  | object parameters => exact absurd rfl (noObject parameters)
  | _ => rfl

/-- The error of a named action is about one of its parameters. -/
theorem parameter_of_ofInput
    {problem : InputError} (named : Json.lookup "action" parameters = some (.string name))
    (fails : ofInput (.object parameters) = .error problem) :
    ∃ parameter, problem.parameter? = some parameter := by
  rw [ofInput_of_named named] at fails
  exact (((ofParameters_settles parameters name).error_iff problem).mp fails).parameter

/-- A tool input is an action exactly when the grammar admits it, as that action, and is refused
with the error that the grammar names. What is no object, or has no name for its action, has an
error of its own. An action has the name that the input gives, and every name outside the vocabulary
is an action. -/
theorem ofInput_settled_by_grammar :
    (∀ value : Json, ofInput value = .error .notAnObject ↔
      ∀ parameters, value ≠ .object parameters) ∧
    (∀ value : Json, ofInput value = .error .missingAction ↔
      ∃ parameters, value = .object parameters ∧
        ∀ name, Json.lookup "action" parameters ≠ some (.string name)) ∧
    (∀ (parameters : Parameters) (name : String),
      Json.lookup "action" parameters = some (.string name) →
      (∀ action, ofInput (.object parameters) = .ok action ↔ Admitted parameters name action) ∧
      (∀ problem, ofInput (.object parameters) = .error problem ↔
        Refused parameters name problem) ∧
      (∀ action, ofInput (.object parameters) = .ok action →
        action.name = name ∧ ((∃ other, action = .unknown other) ↔ name ∉ vocabulary)) ∧
      (name ∉ vocabulary → ofInput (.object parameters) = .ok (.unknown name))) := by
  refine ⟨?_, ?_, ?_⟩
  · intro value
    refine ⟨?_, ofInput_of_notAnObject⟩
    rintro fails parameters rfl
    rcases wordless_or (Json.lookup "action" parameters) with nameless | ⟨name, named⟩
    · rw [ofInput_of_nameless nameless] at fails
      cases fails
    · obtain ⟨_, ⟨⟩⟩ := parameter_of_ofInput named fails
  · intro value
    constructor
    · intro fails
      cases value with
      | object parameters =>
          refine ⟨parameters, rfl, ?_⟩
          intro name named
          obtain ⟨_, ⟨⟩⟩ := parameter_of_ofInput named fails
      | _ => cases fails
    · rintro ⟨parameters, rfl, nameless⟩
      exact ofInput_of_nameless nameless
  · intro parameters name named
    have settles := ofParameters_settles parameters name
    rw [ofInput_of_named named]
    refine ⟨settles.ok_iff, settles.error_iff, ?_, ?_⟩
    · intro action read
      have admitted := (settles.ok_iff action).mp read
      exact ⟨admitted.name_eq, admitted.unknown_iff⟩
    · intro unknown
      exact ofParameters_of_unknown unknown

/-- A scroll by a numeral among blanks and by -30.75, with its direction under the second name and
an amount that is null before the second name of the amount. -/
def spelledScroll : Parameters :=
  [("action", .string "scroll"), ("amount", .null),
    ("coordinate", .object [("x", .string " +07\t"), ("y", .number (.double
      ⟨true, 123 * 2 ^ 46, -48, by decide⟩)), ("z", .boolean true)]),
    ("scroll_amount", .string "9"), ("scroll_direction", .string "left")]

/-- A move to a place with one component that is no integer, and a second fault after it. -/
def brokenMove : Parameters :=
  [("action", .string "mouse_move"), ("coordinate", .array [.string "7.5", .null])]

theorem ofInput_settled_spelledScroll :
    Json.lookup "action" spelledScroll = some (.string "scroll") ∧
    Admitted spelledScroll "scroll" (.scroll (some ⟨7, -30⟩) .left 3) ∧
    Json.lookup "action" brokenMove = some (.string "mouse_move") ∧
    Refused brokenMove "mouse_move"
      (.invalidParameter "coordinate" (.notAnInteger (.string "7.5"))) := by
  obtain ⟨_, _, settles⟩ := ofInput_settled_by_grammar
  obtain ⟨accepts, _⟩ := settles spelledScroll "scroll" rfl
  obtain ⟨_, refuses, _⟩ := settles brokenMove "mouse_move" rfl
  refine ⟨rfl, (accepts _).mp ?_, rfl, (refuses _).mp ?_⟩
  · rfl
  · rfl

end DesktopAgent.Action
