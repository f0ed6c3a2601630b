import DesktopAgent.Display.Command
import DesktopAgent.Proofs.Text.Numeral

/-!
Actions are recognised by their commands.

The commands of an action are read back as the plainest action that has them. So two actions have
the same commands only when both have none, or both do no more than move to the same place, or they
are the same action.
-/

namespace DesktopAgent.Display

open DesktopAgent.Text

/-- The place that two numerals give. -/
def placeOf? (x y : String) : Option Coordinate := do
  some ⟨← Numeral.toInt64? x.toList, ← Numeral.toInt64? y.toList⟩

def amountOf? (count : String) : Option UInt32 :=
  (Numeral.toNat? count.toList).map UInt32.ofNat

/-- The direction in which a button turns the wheel. -/
def turnOf? (button : String) : Option ScrollDirection := do
  let number ← Numeral.toNat? button.toList
  ScrollDirection.all.find? fun direction => direction.button = number

theorem toNat?_text (n : Nat) : Numeral.toNat? (Numeral.text n).toList = some n := by
  have row : (Numeral.text n).toList = Numeral.ofNat n := String.toList_ofList
  rw [row, Numeral.toNat?_ofNat]

theorem placeOf?_numerals (place : Coordinate) :
    placeOf? place.numerals.1 place.numerals.2 = some place := by
  have reads (n : Int64) : Numeral.toInt64? (Numeral.text n.toInt).toList = some n := by
    rw [Numeral.text, String.toList_ofList, Numeral.toInt64?_ofInt]
  unfold placeOf? Coordinate.numerals
  rw [reads, reads]
  rfl

theorem amountOf?_text (amount : UInt32) :
    amountOf? (Numeral.text amount.toNat) = some amount := by
  rw [amountOf?, toNat?_text, Option.map_some, UInt32.ofNat_toNat]

theorem turnOf?_button (direction : ScrollDirection) :
    turnOf? (Numeral.text direction.button) = some direction := by
  rw [turnOf?, toNat?_text]
  cases direction <;> rfl

/-- Different places have different numerals. -/
theorem numerals_injective {first second : Coordinate} (same : first.numerals = second.numerals) :
    first = second := by
  have back := placeOf?_numerals first
  rw [same, placeOf?_numerals second] at back
  exact (Option.some.inj back).symm

theorem amount_injective
    {first second : UInt32} (same : Numeral.text first.toNat = Numeral.text second.toNat) :
    first = second :=
  UInt32.toNat_inj.mp (Int.ofNat_inj.mp (Numeral.text_injective same))

/-- The click or scroll at a place that the arguments after `click` ask for. -/
def clickOf? (place : Option Coordinate) : List String → Option Action
  | ["1"] => some (.leftClick place)
  | ["3"] => some (.rightClick place)
  | ["--repeat", count, button] =>
      match turnOf? button with
      | some direction => (amountOf? count).map (.scroll place direction)
      | none => some (.doubleClick place)
  | _ => none

/-- The plainest action that has these commands. -/
def actionOf? : List (List String) → Option Action
  | [] => some .screenshot
  | [["type", "--delay", _, "--", text]] => some (.type text)
  | [["key", "--", keys]] => some (.key keys)
  | [["mousemove", "--sync", x, y]] => (placeOf? x y).map .mouseMove
  | ["mousemove" :: "--sync" :: x :: y :: "click" :: click] => do clickOf? (← placeOf? x y) click
  | ["click" :: click] => clickOf? none click
  | [["mousemove", "--sync", x, y], "click" :: click] => do clickOf? (← placeOf? x y) click
  | _ => none

/-- The plainest action that has the commands of an action. -/
def plainest : Action → Action
  | .unknown _ => .screenshot
  | .scroll place direction amount =>
      if amount = 0 then place.elim .screenshot .mouseMove else .scroll place direction amount
  | action => action

theorem plainest_scroll
    (place : Option Coordinate) (direction : ScrollDirection) (amount : UInt32) :
    plainest (.scroll place direction amount) =
      if amount = 0 then place.elim .screenshot .mouseMove else .scroll place direction amount :=
  rfl

theorem clickOf?_scroll (place : Option Coordinate) (direction : ScrollDirection)
    (amount : UInt32) :
    clickOf? place ["--repeat", Numeral.text amount.toNat, Numeral.text direction.button] =
      some (.scroll place direction amount) := by
  simp only [clickOf?, turnOf?_button, amountOf?_text, Option.map_some]

theorem actionOf?_clickArguments
    (place : Option Coordinate) {click : List String} {action : Action}
    (clicks : clickOf? place click = some action) :
    actionOf? [clickArguments place click] = some action := by
  cases place with
  | none => exact clicks
  | some place =>
      change (do clickOf? (← placeOf? place.numerals.1 place.numerals.2) click) = _
      rw [placeOf?_numerals]
      exact clicks

theorem actionOf?_scrollCommands
    (place : Option Coordinate) (direction : ScrollDirection) (amount : UInt32) :
    actionOf? (scrollCommands place direction amount) =
      some (plainest (.scroll place direction amount)) := by
  have clicks := clickOf?_scroll place direction amount
  unfold scrollCommands
  rw [plainest_scroll]
  by_cases none : amount = 0
  · rw [if_pos none, if_pos none]
    cases place with
    | none => rfl
    | some place =>
        change (placeOf? place.numerals.1 place.numerals.2).map Action.mouseMove = _
        rw [placeOf?_numerals]
        rfl
  · rw [if_neg none, if_neg none]
    cases place with
    | none => exact clicks
    | some place =>
        change (do clickOf? (← placeOf? place.numerals.1 place.numerals.2) _) = _
        rw [placeOf?_numerals]
        exact clicks

/-- The commands of an action tell what it is, up to the plainest one. -/
theorem actionOf?_commands
    (typingDelayMs : UInt64) {action : Action} (acts : action ≠ .cursorPosition) :
    actionOf? (commands typingDelayMs action) = some (plainest action) := by
  cases action with
  | leftClick place => exact actionOf?_clickArguments place rfl
  | rightClick place => exact actionOf?_clickArguments place rfl
  | doubleClick place => exact actionOf?_clickArguments place rfl
  | type text => rfl
  | key keys => rfl
  | scroll place direction amount => exact actionOf?_scrollCommands place direction amount
  | mouseMove place =>
      change (placeOf? place.numerals.1 place.numerals.2).map Action.mouseMove = _
      rw [placeOf?_numerals]
      rfl
  | screenshot => rfl
  | cursorPosition => exact absurd rfl acts
  | unknown name => rfl

theorem commands_plainest (typingDelayMs : UInt64) (action : Action) :
    commands typingDelayMs (plainest action) = commands typingDelayMs action := by
  cases action with
  | scroll place direction amount =>
      rw [plainest_scroll]
      by_cases none : amount = 0
      · rw [if_pos none, none]
        cases place <;> rfl
      · rw [if_neg none]
  | _ => rfl

/-- An action without commands, other than the one that asks for the pointer. -/
inductive Idle : Action → Prop
  | screenshot : Idle .screenshot
  | unknown (name : String) : Idle (.unknown name)
  | scroll (direction : ScrollDirection) : Idle (.scroll none direction 0)

/-- An action that moves to a place and does nothing there. -/
inductive OnlyMoves (place : Coordinate) : Action → Prop
  | mouseMove : OnlyMoves place (.mouseMove place)
  | scroll (direction : ScrollDirection) : OnlyMoves place (.scroll (some place) direction 0)

theorem plainest_eq_screenshot_iff {action : Action} :
    plainest action = .screenshot ↔ Idle action := by
  constructor
  · intro plain
    cases action with
    | screenshot => exact .screenshot
    | unknown name => exact .unknown name
    | scroll place direction amount =>
        rw [plainest_scroll] at plain
        by_cases none : amount = 0
        · rw [none] at plain ⊢
          cases place with
          | none => exact .scroll direction
          | some _ => cases plain
        · rw [if_neg none] at plain
          cases plain
    | _ => cases plain
  · rintro ⟨⟩ <;> rfl

theorem plainest_eq_mouseMove_iff {action : Action} {place : Coordinate} :
    plainest action = .mouseMove place ↔ OnlyMoves place action := by
  constructor
  · intro plain
    cases action with
    | mouseMove _ =>
        cases plain
        exact .mouseMove
    | scroll target direction amount =>
        rw [plainest_scroll] at plain
        by_cases none : amount = 0
        · rw [none] at plain ⊢
          cases target with
          | none => cases plain
          | some _ =>
              cases plain
              exact .scroll direction
        · rw [if_neg none] at plain
          cases plain
    | _ => cases plain
  · rintro ⟨⟩ <;> rfl

theorem plainest_cases (action : Action) :
    plainest action = .screenshot ∨ (∃ place, plainest action = .mouseMove place) ∨
      plainest action = action := by
  cases action with
  | unknown name => exact Or.inl rfl
  | scroll place direction amount =>
      rw [plainest_scroll]
      by_cases none : amount = 0
      · rw [if_pos none]
        cases place with
        | none => exact Or.inl rfl
        | some place => exact Or.inr (Or.inl ⟨place, rfl⟩)
      · exact Or.inr (Or.inr (if_neg none))
  | _ => exact Or.inr (Or.inr rfl)

theorem plainest_eq_iff {first second : Action} :
    plainest first = plainest second ↔
      first = second ∨ (Idle first ∧ Idle second) ∨
        ∃ place, OnlyMoves place first ∧ OnlyMoves place second := by
  simp only [← plainest_eq_screenshot_iff, ← plainest_eq_mouseMove_iff]
  constructor
  · intro same
    rcases plainest_cases first with idle | ⟨place, moves⟩ | plain
    · exact Or.inr (Or.inl ⟨idle, same.symm.trans idle⟩)
    · exact Or.inr (Or.inr ⟨place, moves, same.symm.trans moves⟩)
    · rcases plainest_cases second with idle | ⟨place, moves⟩ | otherPlain
      · exact Or.inr (Or.inl ⟨same.trans idle, idle⟩)
      · exact Or.inr (Or.inr ⟨place, same.trans moves, moves⟩)
      · exact Or.inl (plain.symm.trans (same.trans otherPlain))
  · rintro (rfl | ⟨idle, otherIdle⟩ | ⟨place, moves, otherMoves⟩)
    · rfl
    · exact idle.trans otherIdle.symm
    · exact moves.trans otherMoves.symm

/-- Two actions have the same commands exactly when they are the same, or both have none, or both
only move to the same place. A typed text and keys are the last argument of their command as they
are, after arguments that do not depend on them, and the numerals of different places and amounts
differ. -/
theorem commands_eq_iff :
    (∀ (typingDelayMs : UInt64) (first second : Action),
      first ≠ .cursorPosition → second ≠ .cursorPosition →
      (commands typingDelayMs first = commands typingDelayMs second ↔
        first = second ∨ (Idle first ∧ Idle second) ∨
          ∃ place, OnlyMoves place first ∧ OnlyMoves place second)) ∧
    (∀ typingDelayMs : UInt64, ∃ lead, ∀ text,
      commands typingDelayMs (.type text) = [lead ++ [text]]) ∧
    (∀ typingDelayMs : UInt64, ∃ lead, ∀ keys,
      commands typingDelayMs (.key keys) = [lead ++ [keys]]) ∧
    (∀ first second : Coordinate, first.numerals = second.numerals → first = second) ∧
    (∀ first second : UInt32,
      Numeral.text first.toNat = Numeral.text second.toNat → first = second) := by
  refine ⟨?_, ?_, ?_, fun _ _ => numerals_injective, fun _ _ => amount_injective⟩
  · intro typingDelayMs first second firstActs secondActs
    rw [← plainest_eq_iff]
    constructor
    · intro same
      have back := actionOf?_commands typingDelayMs firstActs
      rw [same, actionOf?_commands typingDelayMs secondActs] at back
      exact (Option.some.inj back).symm
    · intro same
      rw [← commands_plainest typingDelayMs first, same, commands_plainest]
  · intro typingDelayMs
    exact ⟨["type", "--delay", Numeral.text typingDelayMs.toNat, "--"], fun _ => rfl⟩
  · intro typingDelayMs
    exact ⟨["key", "--"], fun _ => rfl⟩

/-- A double click and two steps of the wheel differ in their last argument only; a scroll by
nothing is the move to its place. -/
theorem commands_eq_iff_of_repeatedClicks :
    Action.doubleClick none ≠ .cursorPosition ∧ Action.scroll none .up 2 ≠ .cursorPosition ∧
    commands 50 (.doubleClick none) ≠ commands 50 (.scroll none .up 2) ∧
    commands 50 (.scroll (some ⟨-7, 9223372036854775807⟩) .left 0) =
      commands 50 (.mouseMove ⟨-7, 9223372036854775807⟩) := by
  obtain ⟨sameIff, _⟩ := commands_eq_iff
  have clicks := sameIff 50 (.doubleClick none) (.scroll none .up 2) nofun nofun
  have moves := sameIff 50 (.scroll (some ⟨-7, 9223372036854775807⟩) .left 0)
    (.mouseMove ⟨-7, 9223372036854775807⟩) nofun nofun
  refine ⟨nofun, nofun, ?_, moves.mpr (Or.inr (Or.inr ⟨_, .scroll _, .mouseMove⟩))⟩
  intro same
  rcases clicks.mp same with equal | ⟨idle, _⟩ | ⟨_, onlyMoves, _⟩
  · cases equal
  · cases idle
  · cases onlyMoves

end DesktopAgent.Display
