import DesktopAgent.Action.Basic

/-!
The commands that carry out an action.

Each command is the list of arguments of one run of the input tool. A click moves and clicks in one
command; a scroll moves in a command of its own. Typed texts and keys come after `--`.
-/

namespace DesktopAgent.Display

open DesktopAgent.Text

def moveArguments (place : Coordinate) : List String :=
  ["mousemove", "--sync", place.numerals.1, place.numerals.2]

def clickArguments (place : Option Coordinate) (click : List String) : List String :=
  (place.map moveArguments).getD [] ++ "click" :: click

def locateArguments : List String := ["getmouselocation"]

/-- The commands of a scroll: its move, if it has a place, and its clicks, if it has any. -/
def scrollCommands (place : Option Coordinate) (direction : ScrollDirection) (amount : UInt32) :
    List (List String) :=
  (place.map moveArguments).toList ++
    if amount = 0 then []
    else [["click", "--repeat", Numeral.text amount.toNat, Numeral.text direction.button]]

/-- The commands that carry out an action, with a delay between typed characters. -/
def commands (typingDelayMs : UInt64) : Action → List (List String)
  | .leftClick place => [clickArguments place ["1"]]
  | .rightClick place => [clickArguments place ["3"]]
  | .doubleClick place => [clickArguments place ["--repeat", "2", "1"]]
  | .type text => [["type", "--delay", Numeral.text typingDelayMs.toNat, "--", text]]
  | .key keys => [["key", "--", keys]]
  | .scroll place direction amount => scrollCommands place direction amount
  | .mouseMove place => [moveArguments place]
  | .screenshot | .cursorPosition | .unknown _ => []

end DesktopAgent.Display
