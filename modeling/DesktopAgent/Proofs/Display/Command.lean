import DesktopAgent.Display.Command
import DesktopAgent.Display.Config

/-!
The arguments of the input tool.

An input command ends in two arguments of which the first is a word of its own, a numeral or `--`,
so that it is never an option of another program; asking for the pointer is a single word.
-/

namespace DesktopAgent.Display

open DesktopAgent.Text

variable {config : Config}

/-- The table of commands, entry by entry. -/
theorem commands_entries
    (delay : UInt64) (x y : Int64) (text : String) (direction : ScrollDirection)
    {amount : UInt32} (turns : amount ≠ 0) :
    let move := ["mousemove", "--sync", Numeral.text x.toInt, Numeral.text y.toInt]
    let turn := ["click", "--repeat", Numeral.text amount.toNat, Numeral.text direction.button]
    commands delay (.leftClick none) = [["click", "1"]] ∧
    commands delay (.leftClick (some ⟨x, y⟩)) = [move ++ ["click", "1"]] ∧
    commands delay (.rightClick none) = [["click", "3"]] ∧
    commands delay (.rightClick (some ⟨x, y⟩)) = [move ++ ["click", "3"]] ∧
    commands delay (.doubleClick none) = [["click", "--repeat", "2", "1"]] ∧
    commands delay (.doubleClick (some ⟨x, y⟩)) =
      [move ++ ["click", "--repeat", "2", "1"]] ∧
    commands delay (.type text) = [["type", "--delay", Numeral.text delay.toNat, "--", text]] ∧
    commands delay (.key text) = [["key", "--", text]] ∧
    commands delay (.scroll none direction amount) = [turn] ∧
    commands delay (.scroll (some ⟨x, y⟩) direction amount) = [move, turn] ∧
    commands delay (.scroll none direction 0) = [] ∧
    commands delay (.scroll (some ⟨x, y⟩) direction 0) = [move] ∧
    commands delay (.mouseMove ⟨x, y⟩) = [move] ∧
    commands delay .screenshot = [] ∧
    commands delay .cursorPosition = [] ∧
    commands delay (.unknown text) = [] := by
  simp [commands, scrollCommands, clickArguments, moveArguments, Coordinate.numerals, turns]


theorem ofNat_ne_concat (n : Nat) (row : List Char) : Numeral.ofNat n ≠ row ++ ['o'] := by
  have digits : ∀ value < 10, Numeral.digit value ≠ 'o' := by decide
  have last : (Numeral.ofNat n).getLast? = some (Numeral.digit (n % 10)) := by
    unfold Numeral.ofNat
    by_cases small : n < 10
    · rw [if_pos small, Nat.mod_eq_of_lt small]
      rfl
    · rw [if_neg small, List.getLast?_concat]
  intro same
  rw [same, List.getLast?_concat] at last
  exact digits (n % 10) (Nat.mod_lt n (by decide)) (Option.some.inj last).symm

/-- A numeral is not the option of the capture command. -/
theorem numeral_ne_option (n : Int) : Numeral.text n ≠ "-o" := by
  intro isOption
  have row : Numeral.ofInt n = ['-', 'o'] := by
    have lists := congrArg String.toList isOption
    rwa [Numeral.text, String.toList_ofList] at lists
  cases n with
  | ofNat n => exact ofNat_ne_concat n ['-'] row
  | negSucc n => exact ofNat_ne_concat (n + 1) [] (List.cons.inj row).2

/-- The arguments with which an executor runs its input tool. -/
def IsInput (config : Config) (arguments : List String) : Prop :=
  arguments = locateArguments ∨ ∃ action, arguments ∈ commands config.typingDelayMs action

/-- How the arguments of an input command end. -/
theorem IsInput.ending {arguments : List String} (isInput : IsInput config arguments) :
    arguments = locateArguments ∨
      ∃ lead second last, arguments = lead ++ [second, last] ∧ second ≠ "-o" := by
  rcases isInput with rfl | ⟨action, member⟩
  · exact Or.inl rfl
  · refine Or.inr ?_
    have moves (place : Coordinate) : ∃ lead second last,
        moveArguments place = lead ++ [second, last] ∧ second ≠ "-o" :=
      ⟨["mousemove", "--sync"], _, _, rfl, numeral_ne_option _⟩
    cases action with
    | leftClick place =>
        cases List.mem_singleton.mp member
        exact ⟨_, "click", "1", rfl, by decide⟩
    | rightClick place =>
        cases List.mem_singleton.mp member
        exact ⟨_, "click", "3", rfl, by decide⟩
    | doubleClick place =>
        cases List.mem_singleton.mp member
        exact ⟨(place.map moveArguments).getD [] ++ ["click", "--repeat"], "2", "1",
          by simp [clickArguments], by decide⟩
    | type text =>
        cases List.mem_singleton.mp member
        exact ⟨["type", "--delay", _], "--", text, rfl, by decide⟩
    | key keys =>
        cases List.mem_singleton.mp member
        exact ⟨["key"], "--", keys, rfl, by decide⟩
    | scroll place direction amount =>
        rcases List.mem_append.mp member with isMove | isClick
        · cases place with
          | none => cases isMove
          | some place =>
              cases List.mem_singleton.mp isMove
              exact moves place
        · by_cases none : amount = 0
          · rw [if_pos none] at isClick
            cases isClick
          · rw [if_neg none] at isClick
            cases List.mem_singleton.mp isClick
            exact ⟨["click", "--repeat"], _, _, rfl, numeral_ne_option _⟩
    | mouseMove place =>
        cases List.mem_singleton.mp member
        exact moves place
    | screenshot => cases member
    | cursorPosition => cases member
    | unknown name => cases member

end DesktopAgent.Display
