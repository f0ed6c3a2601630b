import DesktopAgent.Action.Basic
import DesktopAgent.Wire.Variant

/-!
The wire form of actions.

Actions are written with their name under `action` and exactly their own parameters. This is the
form that events use; the inputs of tool uses are read more freely.
-/

namespace DesktopAgent

open DesktopAgent.Wire

namespace Coordinate

def encode (place : Coordinate) : Json :=
  .object [("x", .int place.x.toInt), ("y", .int place.y.toInt)]

def record : Record Coordinate :=
  Coordinate.mk <$> Record.field "x" int64 <*> Record.field "y" int64

def decode : Decoder Coordinate := record.decoder "Coordinate"

def encodeOption : Option Coordinate → Json
  | some place => place.encode
  | none => .null

end Coordinate

namespace ScrollDirection

def encode (direction : ScrollDirection) : Json := .string direction.name

def variants : List (Variant ScrollDirection) :=
  [⟨"up", "Up", .nothing .up⟩, ⟨"down", "Down", .nothing .down⟩,
    ⟨"left", "Left", .nothing .left⟩, ⟨"right", "Right", .nothing .right⟩]

def decode : Decoder ScrollDirection := Variant.untagged variants

end ScrollDirection

namespace Action

def encode (action : Action) : Json :=
  match action with
  | .leftClick place | .rightClick place | .doubleClick place =>
      .object [("action", .string action.name), ("coordinate", Coordinate.encodeOption place)]
  | .type text => .object [("action", .string "type"), ("text", .string text)]
  | .key keys => .object [("action", .string "key"), ("key", .string keys)]
  | .scroll place direction amount =>
      .object [("action", .string "scroll"), ("amount", .nat amount.toNat),
        ("coordinate", Coordinate.encodeOption place), ("direction", direction.encode)]
  | .mouseMove place =>
      .object [("action", .string "mouse_move"), ("coordinate", place.encode)]
  | .screenshot => .object [("action", .string "screenshot")]
  | .cursorPosition => .object [("action", .string "cursor_position")]
  | .unknown name => .object [("action", .string "unknown"), ("name", .string name)]

def placeField : Record (Option Coordinate) :=
  Record.optionalField "coordinate" Coordinate.decode

def variants : List (Variant Action) :=
  [⟨"left_click", "LeftClick", .record (.leftClick <$> placeField)⟩,
    ⟨"right_click", "RightClick", .record (.rightClick <$> placeField)⟩,
    ⟨"double_click", "DoubleClick", .record (.doubleClick <$> placeField)⟩,
    ⟨"type", "Type", .record (.type <$> Record.field "text" string)⟩,
    ⟨"key", "Key", .record (.key <$> Record.field "key" string)⟩,
    ⟨"scroll", "Scroll", .record (.scroll <$> placeField
      <*> Record.field "direction" ScrollDirection.decode <*> Record.field "amount" uint32)⟩,
    ⟨"mouse_move", "MouseMove",
      .record (.mouseMove <$> Record.field "coordinate" Coordinate.decode)⟩,
    ⟨"screenshot", "Screenshot", .nothing .screenshot⟩,
    ⟨"cursor_position", "CursorPosition", .nothing .cursorPosition⟩,
    ⟨"unknown", "Unknown", .record (.unknown <$> Record.field "name" string)⟩]

def decode : Decoder Action := Variant.tagged "Action" "action" variants

end Action

end DesktopAgent
