import DesktopAgent.Text.Numeral

/-!
What a model can ask a desktop to do.

An action has a name, which is the one that tool inputs use, and a label, which describes it to
someone who watches.
-/

namespace DesktopAgent

open DesktopAgent.Text

/-- A place on the screen in pixels. It need not lie within the screen. -/
structure Coordinate where
  x : Int64
  y : Int64
deriving DecidableEq, Repr

namespace Coordinate

def numerals (place : Coordinate) : String × String :=
  (Numeral.text place.x.toInt, Numeral.text place.y.toInt)

def describe (place : Coordinate) : String :=
  "(" ++ place.numerals.1 ++ ", " ++ place.numerals.2 ++ ")"

end Coordinate

/-- Where the wheel turns. -/
inductive ScrollDirection where
  | up
  | down
  | left
  | right
deriving DecidableEq, Repr

namespace ScrollDirection

def all : List ScrollDirection := [.up, .down, .left, .right]

def name : ScrollDirection → String
  | .up => "up"
  | .down => "down"
  | .left => "left"
  | .right => "right"

def ofName? (word : String) : Option ScrollDirection :=
  all.find? fun direction => direction.name = word

/-- The pointer button that turns the wheel by one step. -/
def button : ScrollDirection → Nat
  | .up => 4
  | .down => 5
  | .left => 6
  | .right => 7

end ScrollDirection

/-- An action on the desktop. A name that is not in the vocabulary is kept. -/
inductive Action where
  | leftClick (place : Option Coordinate)
  | rightClick (place : Option Coordinate)
  | doubleClick (place : Option Coordinate)
  | type (text : String)
  | key (keys : String)
  | scroll (place : Option Coordinate) (direction : ScrollDirection) (amount : UInt32)
  | mouseMove (place : Coordinate)
  | screenshot
  | cursorPosition
  | unknown (name : String)
deriving DecidableEq, Repr

namespace Action

def name : Action → String
  | .leftClick _ => "left_click"
  | .rightClick _ => "right_click"
  | .doubleClick _ => "double_click"
  | .type _ => "type"
  | .key _ => "key"
  | .scroll .. => "scroll"
  | .mouseMove _ => "mouse_move"
  | .screenshot => "screenshot"
  | .cursorPosition => "cursor_position"
  | .unknown name => name

/-- The names of the actions that are not unknown. -/
def vocabulary : List String :=
  ["left_click", "right_click", "double_click", "type", "key", "scroll", "mouse_move",
    "screenshot", "cursor_position"]

/-- How many characters of a typed text its label shows. -/
def labelLimit : Nat := 40

/-- The place of a click, when there is one. -/
def atPlace : Option Coordinate → String
  | some place => " at " ++ place.describe
  | none => ""

def label : Action → String
  | .leftClick place => "Click" ++ atPlace place
  | .rightClick place => "Right-click" ++ atPlace place
  | .doubleClick place => "Double-click" ++ atPlace place
  | .type text => "Typing '" ++ String.ofList (text.toList.take labelLimit) ++ "'"
  | .key keys => "Key press: " ++ keys
  | .scroll _ direction _ => "Scroll " ++ direction.name
  | .mouseMove place => "Mouse move to " ++ place.describe
  | .screenshot => "Taking screenshot"
  | .cursorPosition => "Getting cursor position"
  | .unknown name => name

end Action

end DesktopAgent
