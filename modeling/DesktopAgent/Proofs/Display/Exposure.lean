import DesktopAgent.Display.Command
import DesktopAgent.Proofs.Text.Numeral

/-!
Arguments that could be taken for options.

What a model supplies, the words that are typed or pressed and the place of a coordinate, becomes
arguments of the input tool, which takes an argument that begins with a dash for an option unless it
comes after `--`. Words always do. The components of a coordinate never do, so they are exposed
exactly when they are negative.
-/

namespace DesktopAgent.Display

open DesktopAgent.Text

/-- The action with other words and another place in the stead of its own, where it has them. -/
def resupplied (words : String) (target : Coordinate) : Action → Action
  | .leftClick place => .leftClick (place.map fun _ => target)
  | .rightClick place => .rightClick (place.map fun _ => target)
  | .doubleClick place => .doubleClick (place.map fun _ => target)
  | .type _ => .type words
  | .key _ => .key words
  | .scroll place direction amount => .scroll (place.map fun _ => target) direction amount
  | .mouseMove _ => .mouseMove target
  | .screenshot => .screenshot
  | .cursorPosition => .cursorPosition
  | .unknown name => .unknown name

def argumentAt (typingDelayMs : UInt64) (action : Action) (command index : Nat) : Option String :=
  (commands typingDelayMs action)[command]?.bind fun arguments => arguments[index]?

/-- An argument that depends on the words or the place of the action. -/
def Supplied (typingDelayMs : UInt64) (action : Action) (command index : Nat) : Prop :=
  ∃ words target, argumentAt typingDelayMs (resupplied words target action) command index ≠
    argumentAt typingDelayMs action command index

/-- A supplied argument that begins with a dash and has no `--` before it, other than one that is
supplied itself. -/
structure Exposed (typingDelayMs : UInt64) (action : Action) (command index : Nat) : Prop where
  supplied : Supplied typingDelayMs action command index
  dashed : ∃ argument, argumentAt typingDelayMs action command index = some argument ∧
    argument.toList.head? = some '-'
  unguarded : ∀ earlier < index, argumentAt typingDelayMs action command earlier = some "--" →
    Supplied typingDelayMs action command earlier

def words? : Action → Option String
  | .type words | .key words => some words
  | _ => none

def place? : Action → Option Coordinate
  | .leftClick place | .rightClick place | .doubleClick place | .scroll place _ _ => place
  | .mouseMove place => some place
  | _ => none

/-- How the commands of an action depend on what is supplied: on the words alone, as the last
argument after `--`; on the place alone, as the third and fourth argument; or not at all. -/
inductive Shape (typingDelayMs : UInt64) (action : Action) : Prop
  | worded (lead : List String) (words : String) :
      words? action = some words → place? action = none →
      commands typingDelayMs action = [lead ++ ["--", words]] →
      (∀ words target,
        commands typingDelayMs (resupplied words target action) = [lead ++ ["--", words]]) →
      Shape typingDelayMs action
  | moving (place : Coordinate) (rest : List String) (later : List (List String)) :
      words? action = none → place? action = some place →
      commands typingDelayMs action = (moveArguments place ++ rest) :: later →
      (∀ words target, commands typingDelayMs (resupplied words target action) =
        (moveArguments target ++ rest) :: later) →
      Shape typingDelayMs action
  | fixed :
      words? action = none → place? action = none →
      (∀ words target, commands typingDelayMs (resupplied words target action) =
        commands typingDelayMs action) →
      Shape typingDelayMs action

theorem commands_shape (typingDelayMs : UInt64) (action : Action) : Shape typingDelayMs action := by
  cases action with
  | leftClick place | rightClick place | doubleClick place =>
      cases place with
      | none => exact .fixed rfl rfl fun _ _ => rfl
      | some place => exact .moving place _ [] rfl rfl rfl fun _ _ => rfl
  | type text =>
      exact .worded ["type", "--delay", _] text rfl rfl rfl fun _ _ => rfl
  | key keys => exact .worded ["key"] keys rfl rfl rfl fun _ _ => rfl
  | scroll place direction amount =>
      cases place with
      | none => exact .fixed rfl rfl fun _ _ => rfl
      | some place => exact .moving place [] _ rfl rfl rfl fun _ _ => rfl
  | mouseMove place => exact .moving place [] [] rfl rfl rfl fun _ _ => rfl
  | screenshot | cursorPosition | unknown _ => exact .fixed rfl rfl fun _ _ => rfl

section

variable {typingDelayMs : UInt64} {action : Action} {command index : Nat}

theorem argumentAt_zero
    {arguments : List String} {later : List (List String)}
    (shown : commands typingDelayMs action = arguments :: later) (index : Nat) :
    argumentAt typingDelayMs action 0 index = arguments[index]? := by
  rw [argumentAt, shown]
  rfl

theorem argumentAt_succ
    {arguments : List String} {later : List (List String)}
    (shown : commands typingDelayMs action = arguments :: later) (command index : Nat) :
    argumentAt typingDelayMs action (command + 1) index =
      later[command]?.bind fun arguments => arguments[index]? := by
  rw [argumentAt, shown]
  rfl

section

variable {lead : List String} {words : String}
  (shown : commands typingDelayMs action = [lead ++ ["--", words]])
  (shape : ∀ words target,
    commands typingDelayMs (resupplied words target action) = [lead ++ ["--", words]])

include shown shape

theorem supplied_iff_of_worded :
    Supplied typingDelayMs action command index ↔ command = 0 ∧ index = lead.length + 1 := by
  constructor
  · rintro ⟨other, target, differs⟩
    cases command with
    | zero =>
        refine ⟨rfl, ?_⟩
        rw [argumentAt_zero shown, argumentAt_zero (shape other target),
          List.getElem?_append, List.getElem?_append] at differs
        by_cases early : index < lead.length
        · rw [if_pos early, if_pos early] at differs
          exact absurd rfl differs
        · rw [if_neg early, if_neg early] at differs
          rcases offset : index - lead.length with _ | _ | further
          · rw [offset] at differs
            exact absurd rfl differs
          · omega
          · rw [offset] at differs
            exact absurd rfl differs
    | succ command =>
        rw [argumentAt_succ shown, argumentAt_succ (shape other target)] at differs
        exact absurd rfl differs
  · rintro ⟨rfl, rfl⟩
    refine ⟨words ++ "-", ⟨0, 0⟩, ?_⟩
    rw [argumentAt_zero shown, argumentAt_zero (shape _ _)]
    intro same
    simp at same

theorem not_exposed_of_worded : ¬ Exposed typingDelayMs action command index := by
  intro exposed
  obtain ⟨rfl, rfl⟩ := (supplied_iff_of_worded shown shape).mp exposed.supplied
  have dashes : argumentAt typingDelayMs action 0 lead.length = some "--" := by
    rw [argumentAt_zero shown]
    simp
  have guard := exposed.unguarded lead.length (Nat.lt_succ_self _) dashes
  obtain ⟨_, same⟩ := (supplied_iff_of_worded shown shape).mp guard
  exact Nat.succ_ne_self _ same.symm

end

section

variable {place : Coordinate} {rest : List String} {later : List (List String)}
  (shown : commands typingDelayMs action = (moveArguments place ++ rest) :: later)
  (shape : ∀ words target, commands typingDelayMs (resupplied words target action) =
    (moveArguments target ++ rest) :: later)

include shown in
theorem argumentAt_of_moving :
    argumentAt typingDelayMs action 0 2 = some place.numerals.1 ∧
      argumentAt typingDelayMs action 0 3 = some place.numerals.2 := by
  rw [argumentAt_zero shown, argumentAt_zero shown]
  exact ⟨rfl, rfl⟩

theorem exists_other_component (n : Int64) :
    ∃ m : Int64, Numeral.text m.toInt ≠ Numeral.text n.toInt := by
  have differs {m : Int64} (other : m ≠ n) : Numeral.text m.toInt ≠ Numeral.text n.toInt :=
    fun same => other (Int64.toInt_inj.mp (Numeral.text_injective same))
  by_cases zero : n = 0
  · exact ⟨1, differs (by rw [zero]; decide)⟩
  · exact ⟨0, differs (Ne.symm zero)⟩

include shown shape

theorem supplied_iff_of_moving :
    Supplied typingDelayMs action command index ↔ command = 0 ∧ (index = 2 ∨ index = 3) := by
  constructor
  · rintro ⟨other, target, differs⟩
    cases command with
    | zero =>
        refine ⟨rfl, ?_⟩
        rw [argumentAt_zero shown, argumentAt_zero (shape other target)] at differs
        rcases index with _ | _ | _ | _ | index
        · simp [moveArguments] at differs
        · simp [moveArguments] at differs
        · exact Or.inl rfl
        · exact Or.inr rfl
        · simp [moveArguments] at differs
    | succ command =>
        rw [argumentAt_succ shown, argumentAt_succ (shape other target)] at differs
        exact absurd rfl differs
  · rintro ⟨rfl, isComponent⟩
    obtain ⟨x, otherX⟩ := exists_other_component place.x
    obtain ⟨y, otherY⟩ := exists_other_component place.y
    refine ⟨"", ⟨x, y⟩, ?_⟩
    obtain ⟨placeX, placeY⟩ := argumentAt_of_moving shown
    obtain ⟨targetX, targetY⟩ := argumentAt_of_moving (shape "" ⟨x, y⟩)
    rcases isComponent with rfl | rfl
    · rw [placeX, targetX]
      exact fun same => otherX (Option.some.inj same)
    · rw [placeY, targetY]
      exact fun same => otherY (Option.some.inj same)

theorem exposed_iff_of_moving :
    Exposed typingDelayMs action command index ↔
      command = 0 ∧ (index = 2 ∧ place.x < 0 ∨ index = 3 ∧ place.y < 0) := by
  obtain ⟨isX, isY⟩ := argumentAt_of_moving shown
  have supplied {command index : Nat} :
      Supplied typingDelayMs action command index ↔ command = 0 ∧ (index = 2 ∨ index = 3) :=
    supplied_iff_of_moving shown shape
  have dashed (n : Int64) : (Numeral.text n.toInt).toList.head? = some '-' ↔ n < 0 := by
    rw [Numeral.head?_text_iff, Int64.lt_iff_toInt_lt, Int64.toInt_zero]
  constructor
  · intro exposed
    obtain ⟨argument, found, dash⟩ := exposed.dashed
    obtain ⟨rfl, rfl | rfl⟩ := supplied.mp exposed.supplied
    · rw [isX] at found
      cases found
      exact ⟨rfl, Or.inl ⟨rfl, (dashed place.x).mp dash⟩⟩
    · rw [isY] at found
      cases found
      exact ⟨rfl, Or.inr ⟨rfl, (dashed place.y).mp dash⟩⟩
  · -- No argument before a component is `--`: the first two are fixed words.
    have fixed (earlier : Nat) (early : earlier < 2) :
        argumentAt typingDelayMs action 0 earlier ≠ some "--" := by
      rw [argumentAt_zero shown]
      rcases earlier with _ | _ | earlier
      · simp [moveArguments]
      · simp [moveArguments]
      · omega
    have unguarded (earlier : Nat) (early : earlier < 3)
        (dashes : argumentAt typingDelayMs action 0 earlier = some "--") :
        Supplied typingDelayMs action 0 earlier := by
      by_cases late : earlier = 2
      · exact supplied.mpr ⟨rfl, Or.inl late⟩
      · exact absurd dashes (fixed earlier (by omega))
    rintro ⟨rfl, ⟨rfl, negative⟩ | ⟨rfl, negative⟩⟩
    · exact ⟨supplied.mpr ⟨rfl, Or.inl rfl⟩, ⟨_, isX, (dashed place.x).mpr negative⟩,
        fun earlier early => unguarded earlier (Nat.lt_succ_of_lt early)⟩
    · exact ⟨supplied.mpr ⟨rfl, Or.inr rfl⟩, ⟨_, isY, (dashed place.y).mpr negative⟩, unguarded⟩

end

end

/-- An argument is exposed exactly when it is a negative component of a coordinate. The components
are supplied, and so are typed texts and keys, which come right after a `--` that is not. -/
theorem exposed_iff_negative (typingDelayMs : UInt64) (action : Action) :
    (∀ command index, Exposed typingDelayMs action command index ↔
      command = 0 ∧ ∃ place, place? action = some place ∧
        (index = 2 ∧ place.x < 0 ∨ index = 3 ∧ place.y < 0)) ∧
    (∀ place, place? action = some place →
      (argumentAt typingDelayMs action 0 2 = some place.numerals.1 ∧
        argumentAt typingDelayMs action 0 3 = some place.numerals.2) ∧
      Supplied typingDelayMs action 0 2 ∧ Supplied typingDelayMs action 0 3) ∧
    (∀ words, words? action = some words →
      ∃ index, (argumentAt typingDelayMs action 0 index = some "--" ∧
          argumentAt typingDelayMs action 0 (index + 1) = some words) ∧
        ¬ Supplied typingDelayMs action 0 index ∧
        Supplied typingDelayMs action 0 (index + 1)) := by
  cases commands_shape typingDelayMs action with
  | worded lead words isWords noPlace shown shape =>
      rw [isWords, noPlace]
      refine ⟨?_, nofun, ?_⟩
      · intro command index
        refine ⟨fun exposed => absurd exposed (not_exposed_of_worded shown shape), ?_⟩
        rintro ⟨_, _, ⟨⟩, _⟩
      · rintro _ ⟨⟩
        refine ⟨lead.length, ?_, ?_, (supplied_iff_of_worded shown shape).mpr ⟨rfl, rfl⟩⟩
        · rw [argumentAt_zero shown, argumentAt_zero shown]
          simp
        · intro supplied
          obtain ⟨_, same⟩ := (supplied_iff_of_worded shown shape).mp supplied
          exact Nat.succ_ne_self _ same.symm
  | moving place rest later noWords isPlace shown shape =>
      rw [noWords, isPlace]
      have supplied {index : Nat} (isComponent : index = 2 ∨ index = 3) :
          Supplied typingDelayMs action 0 index :=
        (supplied_iff_of_moving shown shape).mpr ⟨rfl, isComponent⟩
      refine ⟨?_, ?_, nofun⟩
      · intro command index
        rw [exposed_iff_of_moving shown shape]
        simp
      · rintro _ ⟨⟩
        exact ⟨argumentAt_of_moving shown, supplied (Or.inl rfl), supplied (Or.inr rfl)⟩
  | fixed noWords noPlace same =>
      rw [noWords, noPlace]
      refine ⟨?_, nofun, nofun⟩
      intro command index
      constructor
      · intro exposed
        obtain ⟨words, target, differs⟩ := exposed.supplied
        rw [argumentAt, argumentAt, same] at differs
        exact absurd rfl differs
      · rintro ⟨_, _, ⟨⟩, _⟩

/-- A scroll with one negative component, and a text that looks like options. -/
theorem exposed_iff_negative_of_dashes :
    place? (.scroll (some ⟨3, -4⟩) .down 2) = some ⟨3, -4⟩ ∧
    Supplied 50 (.scroll (some ⟨3, -4⟩) .down 2) 0 2 ∧
    ¬ Exposed 50 (.scroll (some ⟨3, -4⟩) .down 2) 0 2 ∧
    Exposed 50 (.scroll (some ⟨3, -4⟩) .down 2) 0 3 ∧
    words? (.type "-5 --force") = some "-5 --force" ∧
    (∃ index, (argumentAt 50 (.type "-5 --force") 0 index = some "--" ∧
        argumentAt 50 (.type "-5 --force") 0 (index + 1) = some "-5 --force") ∧
      ¬ Supplied 50 (.type "-5 --force") 0 index ∧
      Supplied 50 (.type "-5 --force") 0 (index + 1)) := by
  obtain ⟨exposedIff, components, _⟩ := exposed_iff_negative 50 (.scroll (some ⟨3, -4⟩) .down 2)
  obtain ⟨_, _, guarded⟩ := exposed_iff_negative 50 (.type "-5 --force")
  obtain ⟨_, suppliedX, _⟩ := components ⟨3, -4⟩ rfl
  refine ⟨rfl, suppliedX, ?_, ?_, rfl, guarded "-5 --force" rfl⟩
  · intro exposed
    obtain ⟨_, place, isPlace, ⟨_, negative⟩ | ⟨other, _⟩⟩ := (exposedIff _ _).mp exposed
    · cases isPlace
      exact absurd negative (by decide)
    · cases other
  · exact (exposedIff _ _).mpr ⟨rfl, ⟨3, -4⟩, rfl, Or.inr ⟨rfl, by decide⟩⟩

/-- A move to the left of the screen hands its numeral over where an option is read. -/
theorem exposed_negativeMove :
    commands 50 (.mouseMove ⟨-10, 5000⟩) = [["mousemove", "--sync", "-10", "5000"]] ∧
    Exposed 50 (.mouseMove ⟨-10, 5000⟩) 0 2 ∧
    ¬ ∀ (typingDelayMs : UInt64) (action : Action) (command index : Nat),
      ¬ Exposed typingDelayMs action command index := by
  have shown : commands 50 (.mouseMove ⟨-10, 5000⟩) = [moveArguments ⟨-10, 5000⟩ ++ []] := rfl
  have exposed : Exposed 50 (.mouseMove ⟨-10, 5000⟩) 0 2 :=
    (exposed_iff_of_moving shown fun _ _ => rfl).mpr ⟨rfl, Or.inl ⟨rfl, by decide⟩⟩
  exact ⟨by with_unfolding_all rfl, exposed, fun never => never _ _ _ _ exposed⟩

end DesktopAgent.Display
