import DesktopAgent.Agent.Computer

/-!
Partners that follow a script, to rehearse runs with.

A scripted model gives its replies one after the other, then the same one for ever, or fails when
there is none. A scripted computer gives the results that it is told to; where it is told nothing,
each action leads to the next of its numbered screens.
-/

namespace DesktopAgent.Rehearsal

structure Replies where
  next : List (Except Failure Turn)
  afterwards : Option Turn

def exhausted : Failure := .model "script exhausted"

/-- The next reply of a script, and what is left of it. -/
def Replies.take (replies : Replies) : Except Failure Turn × Replies :=
  match replies.next, replies.afterwards with
  | reply :: rest, _ => (reply, { replies with next := rest })
  | [], some turn => (.ok turn, replies)
  | [], none => (.error exhausted, replies)

def model : Model Replies where
  reply _ replies := replies.take

/-- What is left of a computer's script, and the number of its screen. A missing entry leaves the
result to the computer. -/
structure Screens where
  screenshots : List (Option (Except Failure String))
  observations : List (Option (Except Failure Observation))
  numbered : Nat

def screenName (number : Nat) : String := "screen-" ++ Text.Numeral.text number

/-- The computer with the next screen. -/
def Screens.advance (screens : Screens) : Screens :=
  { screens with numbered := screens.numbered + 1 }

/-- A picture of the screen. -/
def Screens.screenshot (screens : Screens) : Except Failure String × Screens :=
  let rest := { screens with screenshots := screens.screenshots.tail }
  match screens.screenshots.head?.join with
  | some result => (result, rest)
  | none => (.ok (screenName rest.numbered), rest)

def pointerReport : String := "x:1 y:2 screen:0 window:3"

/-- What an action lets the model see. -/
def Screens.execute (action : Action) (screens : Screens) :
    Except Failure Observation × Screens :=
  let rest := { screens with observations := screens.observations.tail }
  match screens.observations.head?.join, action with
  | some result, _ => (result, rest)
  | none, .cursorPosition => (.ok (.cursorPosition pointerReport), rest)
  | none, _ => (.ok (.screenshot (screenName rest.advance.numbered)), rest.advance)

def computer (size : Dimensions) : Computer Screens where
  dimensions := size
  screenshot := Screens.screenshot
  execute := Screens.execute

/-- The same computer, which remembers in order what its actions gave. -/
def remembering {σ : Type} (computer : Computer σ) :
    Computer (σ × List (Except Failure Observation)) where
  dimensions := computer.dimensions
  screenshot state :=
    let (result, next) := computer.screenshot state.1
    (result, next, state.2)
  execute action state :=
    let (result, next) := computer.execute action state.1
    (result, next, state.2 ++ [result])

end DesktopAgent.Rehearsal
