import DesktopAgent.Proofs.Action.Grammar
import DesktopAgent.Proofs.Display.Exposure

/-!
Integers of any size in a tool input.

A number of any value becomes an integer of 64 bits: its value is cut toward zero and, where it lies
beyond them, moved to the nearest of them, so a greater number never becomes a smaller integer. A
numeral in a string is taken exactly or not at all. A scroll then counts with what fits 32 bits and
refuses the rest.
-/

namespace DesktopAgent.Action

open DesktopAgent.Text

/-- What a number or a string in the place of an integer is converted to, if to anything. -/
inductive Converts : Json → Option Int → Prop
  | number (number : Json.Number) :
      Converts (.number number)
        (some (max leastInteger (min greatestInteger (towardZero number.value))))
  | within {text : String} {n : Int} :
      Carries text n → leastInteger ≤ n ∧ n ≤ greatestInteger →
      Converts (.string text) (some n)
  | beyond {text : String} {n : Int} :
      Carries text n → ¬ (leastInteger ≤ n ∧ n ≤ greatestInteger) →
      Converts (.string text) none
  -- A point or an exponent makes no numeral, although a number may be written with them.
  | noNumeral {text : String} :
      (∀ n, ¬ Carries text n) → Converts (.string text) none

theorem converts_int (n : Int) :
    Converts (.int n) (some (max leastInteger (min greatestInteger n))) := by
  have converts := Converts.number (.integer n)
  rwa [Json.Number.value, towardZero_intCast] at converts

theorem converts_double (d : Double) :
    Converts (.number (.double d))
      (some (max leastInteger (min greatestInteger d.truncate))) := by
  rw [d.truncate_eq]
  exact .number _

theorem Carries.unique {text : String} {m n : Int} (first : Carries text m)
    (second : Carries text n) : m = n := by
  have readsFirst := Numeral.toInt?_eq_some_iff.mpr (carries_iff.mp first)
  have readsSecond := Numeral.toInt?_eq_some_iff.mpr (carries_iff.mp second)
  exact Option.some.inj (readsFirst.symm.trans readsSecond)

theorem Spells.unique {value : Json} {m n : Int64} (first : Spells value m)
    (second : Spells value n) : m = n := by
  have reads := (readInteger_settles "coordinate" value).ok_iff
  exact Except.ok.inj (((reads m).mpr first).symm.trans ((reads n).mpr second))

section

variable {value : Json} {converted : Option Int}

theorem Converts.exists_spells {n : Int} (converts : Converts value (some n)) :
    ∃ m : Int64, Spells value m ∧ m.toInt = n := by
  cases converts with
  | number number => exact ⟨wholePart number, spells_number_iff.mpr rfl, toInt_wholePart number⟩
  | within carries range =>
      have kept : (Int64.ofInt n).toInt = n :=
        Int64.toInt_ofInt_of_le range.1 (Int.lt_add_one_of_le range.2)
      refine ⟨Int64.ofInt n, spells_iff_carries.mpr ?_, kept⟩
      rw [kept]
      exact carries

theorem Converts.not_spells (converts : Converts value none) (n : Int64) : ¬ Spells value n := by
  intro spells
  cases converts with
  | beyond carries outside =>
      rw [carries.unique (spells_iff_carries.mp spells)] at outside
      exact outside ⟨n.minValue_le_toInt, n.toInt_le⟩
  | noNumeral nothing => exact nothing _ (spells_iff_carries.mp spells)

theorem Converts.eq_of_spells {n : Int64} (converts : Converts value converted)
    (spells : Spells value n) : converted = some n.toInt := by
  cases converted with
  | none => exact absurd spells (converts.not_spells n)
  | some m =>
      obtain ⟨other, spellsOther, same⟩ := converts.exists_spells
      rw [← same, spellsOther.unique spells]

end

/-- A greater number is converted to no smaller integer. -/
theorem spells_mono {p q : Json.Number} {n m : Int64} (le : p.value ≤ q.value)
    (first : Spells (.number p) n) (second : Spells (.number q) m) : n ≤ m := by
  have cut := towardZero_mono le
  have isFirst := Option.some.inj ((Converts.number p).eq_of_spells first)
  have isSecond := Option.some.inj ((Converts.number q).eq_of_spells second)
  rw [Int64.le_iff_toInt_le, ← isFirst, ← isSecond]
  exact max_le_max le_rfl (min_le_min le_rfl cut)

/-! ## Components of a coordinate -/

theorem Pair.unique {value x y x' y' : Json} (first : Pair value x y) (second : Pair value x' y') :
    x = x' ∧ y = y' := by
  have same := (components_of_pair first).symm.trans (components_of_pair second)
  cases same
  exact ⟨rfl, rfl⟩

/-- A coordinate with two components gives a place exactly when these spell its integers. -/
theorem Places.pair_iff {value x y : Json} {place : Option Coordinate} (pair : Pair value x y) :
    Places (some value) place ↔
      ∃ found, place = some found ∧ Spells x found.x ∧ Spells y found.y := by
  constructor
  · rintro (missing | ⟨other, isX, isY⟩)
    · cases missing
      exact absurd rfl pair.ne_null
    · obtain ⟨rfl, rfl⟩ := pair.unique other
      exact ⟨_, rfl, isX, isY⟩
  · rintro ⟨found, rfl, isX, isY⟩
    exact .pair pair isX isY

/-- An input with a coordinate of two components that is read as an action at a place. -/
structure ReadAt (parameters : Parameters) (x y : Json) (place : Coordinate) : Prop where
  written : ∃ value, Json.lookup "coordinate" parameters = some value ∧ Pair value x y
  read : ∃ action, ofInput (.object parameters) = .ok action ∧ Display.place? action = some place

/-- What the two components of a coordinate make of an input. When both are converted it is read at
a place, unless it is a scroll with a fault elsewhere; else it is refused for the first that is not.
-/
structure Componentwise (parameters : Parameters) (name : String) (x y : Json) : Prop where
  read : ∀ n m, Converts x (some n) → Converts y (some m) →
    (∃ place, ReadAt parameters x y place) ∨
      name = "scroll" ∧ ∃ problem, ofInput (.object parameters) = .error problem ∧
        problem.parameter? ≠ some "coordinate"
  first : Converts x none →
    ofInput (.object parameters) = .error (.invalidParameter "coordinate" (.notAnInteger x))
  second : ∀ n, Converts x (some n) → Converts y none →
    ofInput (.object parameters) = .error (.invalidParameter "coordinate" (.notAnInteger y))

section

variable {parameters : Parameters} {name : String}

theorem Admitted.places {action : Action} (admitted : Admitted parameters name action) :
    Places (Json.lookup "coordinate" parameters) (Display.place? action) ∨
      name ∉ placed ∧ Display.place? action = none := by
  cases admitted with
  | leftClick places | rightClick places | doubleClick places | mouseMove places =>
      exact Or.inl places
  | scroll places _ _ => exact Or.inl places
  | type _ | key _ | screenshot | cursorPosition => exact Or.inr ⟨by decide, rfl⟩
  | unknown unknown =>
      have known : ∀ other ∈ placed, other ∈ vocabulary := by decide
      exact Or.inr ⟨fun isPlaced => unknown (known name isPlaced), rfl⟩

/-- Of the actions with a readable place only a scroll is refused, for what it has besides. -/
theorem Refused.scroll_of_places
    {problem : InputError} {place : Coordinate} (refused : Refused parameters name problem)
    (isPlaced : name ∈ placed)
    (places : Places (Json.lookup "coordinate" parameters) (some place)) :
    name = "scroll" ∧ problem.parameter? ≠ some "coordinate" := by
  have reads := ((readPlace_settles parameters).ok_iff _).mpr places
  cases refused with
  | place _ misplaces =>
      have fails := ((readPlace_settles parameters).error_iff _).mpr misplaces
      rw [reads] at fails
      cases fails
  | unplaced missing =>
      have absent := ((readPlace_settles parameters).ok_iff _).mpr (.missing missing)
      rw [reads] at absent
      cases absent
  | text _ | keys _ => exact absurd isPlaced (by decide)
  | direction _ misdirects =>
      rw [misdirects.parameter]
      exact ⟨rfl, by decide⟩
  | amount _ _ miscounts =>
      rw [miscounts.parameter]
      exact ⟨rfl, by decide⟩

theorem ReadAt.spells {x y : Json} {place : Coordinate} (readAt : ReadAt parameters x y place) :
    Spells x place.x ∧ Spells y place.y := by
  obtain ⟨⟨value, present, pair⟩, action, read, isPlace⟩ := readAt
  rcases wordless_or (Json.lookup "action" parameters) with nameless | ⟨name, named⟩
  · rw [ofInput_of_nameless nameless] at read
    cases read
  · rw [ofInput_of_named named] at read
    have admitted := ((ofParameters_settles parameters name).ok_iff action).mp read
    rcases admitted.places with places | ⟨_, noPlace⟩
    · rw [present, isPlace, Places.pair_iff pair] at places
      obtain ⟨found, same, spells⟩ := places
      cases same
      exact spells
    · rw [noPlace] at isPlace
      cases isPlace

section

variable {value x y : Json} (named : Json.lookup "action" parameters = some (.string name))
  (isPlaced : name ∈ placed) (present : Json.lookup "coordinate" parameters = some value)
  (pair : Pair value x y)

include named isPlaced present pair

theorem readAt_or_scroll {n m : Int64} (isX : Spells x n) (isY : Spells y m) :
    (∃ place, ReadAt parameters x y place) ∨
      name = "scroll" ∧ ∃ problem, ofInput (.object parameters) = .error problem ∧
        problem.parameter? ≠ some "coordinate" := by
  have settles := ofParameters_settles parameters name
  rw [ofInput_of_named named]
  rcases settles.total with ⟨action, admitted⟩ | ⟨problem, refused⟩
  · refine Or.inl ?_
    rcases admitted.places with places | ⟨notPlaced, _⟩
    · rw [present, Places.pair_iff pair] at places
      obtain ⟨place, isPlace, _⟩ := places
      refine ⟨place, ⟨value, present, pair⟩, action, ?_, isPlace⟩
      rw [ofInput_of_named named]
      exact (settles.ok_iff action).mpr admitted
    · exact absurd isPlaced notPlaced
  · -- The place is readable, so the fault lies in what only a scroll has.
    have places : Places (Json.lookup "coordinate" parameters) (some ⟨n, m⟩) := by
      rw [present]
      exact .pair pair isX isY
    obtain ⟨isScroll, apart⟩ := refused.scroll_of_places isPlaced places
    exact Or.inr ⟨isScroll, problem, (settles.error_iff problem).mpr refused, apart⟩

theorem componentwise_of_pair : Componentwise parameters name x y := by
  have refuses {problem : InputError} (misplaces : Misplaces (some value) problem) :
      ofInput (.object parameters) = .error problem := by
    rw [← present] at misplaces
    rw [ofInput_of_named named]
    exact ofParameters_of_misplaces isPlaced misplaces
  refine ⟨?_, ?_, ?_⟩
  · intro n m convertsX convertsY
    obtain ⟨_, isX, _⟩ := convertsX.exists_spells
    obtain ⟨_, isY, _⟩ := convertsY.exists_spells
    exact readAt_or_scroll named isPlaced present pair isX isY
  · intro nothing
    exact refuses (.first pair nothing.not_spells)
  · -- The second component is looked at only after the first has been read.
    intro n convertsX nothing
    obtain ⟨_, isX, _⟩ := convertsX.exists_spells
    exact refuses (.second pair isX nothing.not_spells)

end

end

section

variable {value : Json} {converted : Option Int}

theorem Converts.ne_null (converts : Converts value converted) : value ≠ .null := by
  cases converts <;> exact nofun

theorem Converts.counts_iff {amount : UInt32} (converts : Converts value converted) :
    Counts (some value) amount ↔ converted = some (amount.toNat : Int) := by
  constructor
  · rintro (missing | ⟨spells, same⟩)
    · cases missing
      exact absurd rfl converts.ne_null
    · rw [converts.eq_of_spells spells, same]
  · rintro rfl
    obtain ⟨n, spells, same⟩ := converts.exists_spells
    exact .integer spells same

theorem Converts.miscounts (converts : Converts value none) :
    Miscounts (some value) (.invalidParameter "amount" (.notAnInteger value)) :=
  .noInteger converts.ne_null converts.not_spells

theorem Converts.miscounts_of_outside {n : Int} (converts : Converts value (some n))
    (outside : ¬ (0 ≤ n ∧ n < 2 ^ 32)) :
    Miscounts (some value) (.invalidParameter "amount" (.notAClickCount (Int64.ofInt n))) := by
  obtain ⟨m, spells, rfl⟩ := converts.exists_spells
  rw [Int64.ofInt_toInt]
  exact .outside spells outside

end

/-- What an amount makes of a scroll. Where it is converted to an integer of 32 bits, and the place
and the direction are readable, the scroll is by that integer; else it is refused for the amount. -/
structure Counted (parameters : Parameters) (value : Json) (converted : Option Int)
    (place : Option Coordinate) (direction : ScrollDirection) : Prop where
  accepted : ∀ k : Int,
    (∃ amount : UInt32, (amount.toNat : Int) = k ∧
      ofInput (.object parameters) = .ok (.scroll place direction amount)) ↔
    Places (Json.lookup "coordinate" parameters) place ∧
      Directs (valueOf ["direction", "scroll_direction"] parameters) direction ∧
      converted = some k ∧ 0 ≤ k ∧ k < 2 ^ 32
  refused : Places (Json.lookup "coordinate" parameters) place →
    Directs (valueOf ["direction", "scroll_direction"] parameters) direction →
    (converted = none →
      ofInput (.object parameters) = .error (.invalidParameter "amount" (.notAnInteger value))) ∧
    ∀ n, converted = some n → ¬ (0 ≤ n ∧ n < 2 ^ 32) →
      ofInput (.object parameters) =
        .error (.invalidParameter "amount" (.notAClickCount (Int64.ofInt n)))

section

variable {parameters : Parameters} {value : Json} {converted : Option Int}
  (named : Json.lookup "action" parameters = some (.string "scroll"))
  (present : valueOf ["amount", "scroll_amount"] parameters = some value)
  (converts : Converts value converted)
  (place : Option Coordinate) (direction : ScrollDirection)

include named present converts

theorem ofInput_eq_scroll_iff (amount : UInt32) :
    ofInput (.object parameters) = .ok (.scroll place direction amount) ↔
      Places (Json.lookup "coordinate" parameters) place ∧
      Directs (valueOf ["direction", "scroll_direction"] parameters) direction ∧
      converted = some (amount.toNat : Int) := by
  rw [ofInput_of_named named, (ofParameters_settles parameters "scroll").ok_iff,
    ← converts.counts_iff, ← present]
  constructor
  · exact Admitted.scroll_parts
  · rintro ⟨places, directs, counts⟩
    exact .scroll places directs counts

theorem counted_of_converts : Counted parameters value converted place direction := by
  have reads := ofInput_eq_scroll_iff named present converts place direction
  refine ⟨?_, ?_⟩
  · intro k
    constructor
    · rintro ⟨amount, rfl, read⟩
      obtain ⟨places, directs, same⟩ := (reads amount).mp read
      exact ⟨places, directs, same, by omega, by exact_mod_cast amount.toNat_lt⟩
    · rintro ⟨places, directs, same, low, high⟩
      have whole : ((UInt32.ofNat k.toNat).toNat : Int) = k := by
        rw [UInt32.toNat_ofNat_of_lt' (by unfold UInt32.size; omega), Int.toNat_of_nonneg low]
      refine ⟨UInt32.ofNat k.toNat, whole, (reads _).mpr ⟨places, directs, ?_⟩⟩
      rw [whole, same]
  · intro places directs
    have refuses {problem : InputError} (miscounts : Miscounts (some value) problem) :
        ofInput (.object parameters) = .error problem := by
      rw [← present] at miscounts
      rw [ofInput_of_named named]
      exact ofParameters_of_refused (.amount places directs miscounts)
    refine ⟨?_, ?_⟩
    · rintro rfl
      exact refuses converts.miscounts
    · rintro n rfl outside
      exact refuses (converts.miscounts_of_outside outside)

end

/-! ## Tool inputs -/

/-- Integers are never wrapped. A component of a coordinate is what its number or string is
converted to, and an input is refused for one that is converted to nothing; among numbers,
components have the order of the numbers. A scroll is by what its amount is converted to when that
fits 32 bits, and is refused for it otherwise. -/
theorem ofInput_converts_integers :
    (∀ (parameters : Parameters) (x y : Json) (place : Coordinate), ReadAt parameters x y place →
      (∀ converted, Converts x converted → converted = some place.x.toInt) ∧
      ∀ converted, Converts y converted → converted = some place.y.toInt) ∧
    (∀ (parameters : Parameters) (name : String) (value x y : Json),
      Json.lookup "action" parameters = some (.string name) → name ∈ placed →
      Json.lookup "coordinate" parameters = some value → Pair value x y →
      Componentwise parameters name x y) ∧
    (∀ (first second : Parameters) (small large : Json.Number) (other another : Json)
        (near far : Coordinate), small.value ≤ large.value →
      (ReadAt first (.number small) other near → ReadAt second (.number large) another far →
        near.x ≤ far.x) ∧
      (ReadAt first other (.number small) near → ReadAt second another (.number large) far →
        near.y ≤ far.y)) ∧
    ∀ (parameters : Parameters) (value : Json) (converted : Option Int),
      Json.lookup "action" parameters = some (.string "scroll") →
      valueOf ["amount", "scroll_amount"] parameters = some value → Converts value converted →
      ∀ place direction, Counted parameters value converted place direction := by
  refine ⟨?_, ?_, ?_, ?_⟩
  · intro parameters x y place readAt
    obtain ⟨isX, isY⟩ := readAt.spells
    exact ⟨fun _ converts => converts.eq_of_spells isX, fun _ converts => converts.eq_of_spells isY⟩
  · intro parameters name value x y named isPlaced present pair
    exact componentwise_of_pair named isPlaced present pair
  · intro first second small large other another near far le
    exact ⟨fun isNear isFar => spells_mono le isNear.spells.1 isFar.spells.1,
      fun isNear isFar => spells_mono le isNear.spells.2 isFar.spells.2⟩
  · intro parameters value converted named present converts place direction
    exact counted_of_converts named present converts place direction

/-- 2^63 - 1024, the greatest double among the integers of 64 bits. -/
def nearLimit : Double := ⟨false, 2 ^ 53 - 1, 10, by decide⟩

/-- 2^32, the least double that is too large for a number of steps. -/
def overCount : Double := ⟨false, 2 ^ 52, -20, by decide⟩

/-- The number -0.75. -/
def underZero : Double := ⟨true, 3 * 2 ^ 51, -53, by decide⟩

/-- A click at two doubles. -/
def nearClick : Parameters :=
  [("action", .string "left_click"),
    ("coordinate", .array [.number (.double nearLimit), .number (.double underZero)])]

/-- The least integer of 64 bits, with a leading zero and blanks. -/
def leastText : String := "\u00a0-09223372036854775808\n"

/-- A move to 2^64 - 1, which is no integer of 64 bits, and to the least of these. -/
def farMove : Parameters :=
  [("action", .string "mouse_move"),
    ("coordinate", .object [("x", .int 18446744073709551615), ("y", .string leastText)])]

/-- A move to 2^63 by a numeral. -/
def refusedMove : Parameters :=
  [("action", .string "mouse_move"),
    ("coordinate", .array [.int 0, .string "+9223372036854775808"])]

/-- A scroll up by some amount. -/
def scrollBy (amount : Json) : Parameters :=
  [("action", .string "scroll"), ("amount", amount), ("direction", .string "up")]

/-- At the limits: 2^64 - 1 is moved to 2^63 - 1 as a number, and stays in order with the double
below it, but 2^63 is refused as a numeral; a scroll by -0.75 is one by nothing, and 2^32 is too
much. -/
theorem ofInput_converts_integers_atLimits :
    (∃ place, ReadAt farMove (.int 18446744073709551615) (.string leastText) place ∧
      place.x.toInt = 2 ^ 63 - 1 ∧ place.y.toInt = -2 ^ 63) ∧
    ofInput (.object refusedMove) =
      .error (.invalidParameter "coordinate" (.notAnInteger (.string "+9223372036854775808"))) ∧
    (9223372036854774784 : Int64) ≤ 9223372036854775807 ∧
    (∃ amount : UInt32, (amount.toNat : Int) = 0 ∧
      ofInput (.object (scrollBy (.number (.double underZero)))) =
        .ok (.scroll none .up amount)) ∧
    ofInput (.object (scrollBy (.number (.double overCount)))) =
      .error (.invalidParameter "amount" (.notAClickCount 4294967296)) := by
  obtain ⟨components, decided, ordered, amounts⟩ := ofInput_converts_integers
  have isLeast : Carries leastText (-9223372036854775808) := by
    rw [carries_iff, ← Numeral.toInt?_eq_some_iff]
    decide +kernel
  have isBeyond : Carries "+9223372036854775808" 9223372036854775808 := by
    rw [carries_iff, ← Numeral.toInt?_eq_some_iff]
    decide +kernel
  have isFar : ReadAt farMove (.int 18446744073709551615) (.string leastText)
      ⟨9223372036854775807, -9223372036854775808⟩ :=
    ⟨⟨_, rfl, .named rfl rfl⟩, _, rfl, rfl⟩
  have isNear : ReadAt nearClick (.number (.double nearLimit)) (.number (.double underZero))
      ⟨9223372036854774784, 0⟩ :=
    ⟨⟨_, rfl, .ordered _ _⟩, _, rfl, rfl⟩
  refine ⟨?_, ?_, ?_, ?_, ?_⟩
  · obtain ⟨isX, isY⟩ := components farMove _ _ _ isFar
    exact ⟨_, isFar, (Option.some.inj (isX _ (converts_int _))).symm,
      (Option.some.inj (isY _ (.within isLeast (by decide)))).symm⟩
  · have refused := decided refusedMove "mouse_move" _ _ _ rfl (by decide) rfl (.ordered _ _)
    exact refused.second 0 (converts_int 0) (.beyond isBeyond (by decide))
  · refine (ordered nearClick farMove _ _ _ _ _ _ ?_).1 isNear isFar
    simp only [Json.Number.value, Double.value, nearLimit]
    norm_num
  · have counted := amounts (scrollBy (.number (.double underZero))) _ _ rfl rfl
      (converts_double underZero) none .up
    exact (counted.accepted 0).mpr
      ⟨.missing .absent, .word .up, by decide +kernel, by decide, by decide⟩
  · have counted := amounts (scrollBy (.number (.double overCount))) _ _ rfl rfl
      (converts_double overCount) none .up
    exact (counted.refused (.missing .absent) (.word .up)).2 4294967296 (by decide +kernel)
      (by decide)

end DesktopAgent.Action
