import DesktopAgent.Action.Basic
import DesktopAgent.Double.Rounding
import DesktopAgent.Json.Printer
import DesktopAgent.Text.Blank

/-!
Reading an action from the input of a tool use.

Models spell inputs in several ways. A coordinate is a pair or an object with `x` and `y`; an
integer is any number, cut toward zero and held within 64 bits, or a numeral in a string; some
parameters have a second name. A name outside the vocabulary is an action too.
-/

namespace DesktopAgent.Action

open DesktopAgent.Text

inductive InvalidReason where
  | notAPair (found : Json)
  | withoutXAndY (found : Json)
  | notAnInteger (found : Json)
  | notAClickCount (value : Int64)
  | unknownDirection (word : String)
deriving Repr

inductive InputError where
  | notAnObject
  | missingAction
  | missingParameter (action parameter : String)
  | invalidParameter (parameter : String) (reason : InvalidReason)
deriving Repr

def InvalidReason.message : InvalidReason → String
  | .notAPair found => "expected [x, y], got " ++ found.compact
  | .withoutXAndY found => "expected x and y, got " ++ found.compact
  | .notAnInteger found => "expected an integer, got " ++ found.compact
  | .notAClickCount value => Numeral.text value.toInt ++ " is not a click count"
  | .unknownDirection word => "unknown scroll direction `" ++ word ++ "`"

def InputError.message : InputError → String
  | .notAnObject => "tool input must be a JSON object"
  | .missingAction => "tool input is missing `action`"
  | .missingParameter action parameter => "`" ++ action ++ "` requires `" ++ parameter ++ "`"
  | .invalidParameter parameter reason => "invalid `" ++ parameter ++ "`: " ++ reason.message

abbrev Parameters := List (String × Json)

def leastInteger : Int := -9223372036854775808

def greatestInteger : Int := 9223372036854775807

/-- The integer nearest to a number among those of 64 bits. -/
def clamp (value : Int) : Int64 :=
  Int64.ofInt (max leastInteger (min greatestInteger value))

def roundedWhole (value : Int) : Int :=
  match Double.ofInt? value with
  | some d => d.truncate
  | none => value

def wholePart : Json.Number → Int64
  | .integer value =>
      if leastInteger ≤ value ∧ value ≤ greatestInteger then Int64.ofInt value
      else clamp (roundedWhole value)
  | .double d => clamp d.truncate

/-- Reads a number or a numeral in a string; a numeral must fit 64 bits. -/
def readInteger (parameter : String) (value : Json) : Except InputError Int64 :=
  let invalid := .error (.invalidParameter parameter (.notAnInteger value))
  match value with
  | .number number => .ok (wholePart number)
  | .string text =>
      match Numeral.toInt64? (trim text.toList) with
      | some n => .ok n
      | none => invalid
  | _ => invalid

/-- The components of a coordinate as they are written. -/
def components (value : Json) : Except InputError (Json × Json) :=
  match value with
  | .array [x, y] => .ok (x, y)
  | .object members =>
      match Json.lookup "x" members, Json.lookup "y" members with
      | some x, some y => .ok (x, y)
      | _, _ => .error (.invalidParameter "coordinate" (.withoutXAndY value))
  | _ => .error (.invalidParameter "coordinate" (.notAPair value))

def readPlace (parameters : Parameters) : Except InputError (Option Coordinate) :=
  match Json.lookup "coordinate" parameters with
  | none | some .null => .ok none
  | some value => do
      let (x, y) ← components value
      return some ⟨← readInteger "coordinate" x, ← readInteger "coordinate" y⟩

def requirePlace (action : String) (parameters : Parameters) : Except InputError Coordinate := do
  match ← readPlace parameters with
  | some place => return place
  | none => throw (.missingParameter action "coordinate")

/-- The value of the first of two names that is present. -/
def firstPresent (name second : String) (parameters : Parameters) : Option Json :=
  (Json.lookup name parameters).orElse fun _ => Json.lookup second parameters

def requireText (action parameter : String) (parameters : Parameters) :
    Except InputError String :=
  match Json.lookupText parameter parameters with
  | some text => .ok text
  | none => .error (.missingParameter action parameter)

def readKeys (parameters : Parameters) : Except InputError String :=
  match (firstPresent "key" "text" parameters).bind Json.text? with
  | some keys => .ok keys
  | none => .error (.missingParameter "key" "key")

def readDirection (parameters : Parameters) : Except InputError ScrollDirection :=
  match (firstPresent "direction" "scroll_direction" parameters).bind Json.text? with
  | none => .error (.missingParameter "scroll" "direction")
  | some word =>
      match ScrollDirection.ofName? word with
      | some direction => .ok direction
      | none => .error (.invalidParameter "direction" (.unknownDirection word))

def defaultAmount : UInt32 := 3

def readClickCount (value : Json) : Except InputError UInt32 := do
  let n ← readInteger "amount" value
  if 0 ≤ n.toInt ∧ n.toInt < 4294967296 then return UInt32.ofNat n.toInt.toNat
  else throw (.invalidParameter "amount" (.notAClickCount n))

/-- Reads the number of wheel steps, which may be absent or null. -/
def readAmount (parameters : Parameters) : Except InputError UInt32 :=
  match firstPresent "amount" "scroll_amount" parameters with
  | none | some .null => .ok defaultAmount
  | some value => readClickCount value

def ofParameters (name : String) (parameters : Parameters) : Except InputError Action :=
  match name with
  | "left_click" => (readPlace parameters).map .leftClick
  | "right_click" => (readPlace parameters).map .rightClick
  | "double_click" => (readPlace parameters).map .doubleClick
  | "type" => (requireText "type" "text" parameters).map .type
  | "key" => (readKeys parameters).map .key
  | "scroll" => do
      let place ← readPlace parameters
      let direction ← readDirection parameters
      let amount ← readAmount parameters
      return .scroll place direction amount
  | "mouse_move" => (requirePlace "mouse_move" parameters).map .mouseMove
  | "screenshot" => .ok .screenshot
  | "cursor_position" => .ok .cursorPosition
  | other => .ok (.unknown other)

def ofInput : Json → Except InputError Action
  | .object parameters =>
      match Json.lookupText "action" parameters with
      | some name => ofParameters name parameters
      | none => .error .missingAction
  | _ => .error .notAnObject

end DesktopAgent.Action
