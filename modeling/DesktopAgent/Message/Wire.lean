import DesktopAgent.Message.Basic
import DesktopAgent.Wire.Variant

/-!
The wire form of turns and blocks.

A block is an object whose `type` says what it is. Known kinds are read into their parts and written
with exactly those; an object of any other kind is kept and written back as it came.
-/

namespace DesktopAgent

open DesktopAgent.Wire

namespace Role

def name : Role → String
  | .user => "user"
  | .assistant => "assistant"

def encode (role : Role) : Json := .string role.name

def variants : List (Variant Role) :=
  [⟨"user", "User", .nothing .user⟩, ⟨"assistant", "Assistant", .nothing .assistant⟩]

def decode : Decoder Role := Variant.untagged variants

end Role

namespace ImageSource

def encode (source : ImageSource) : Json :=
  .object [("data", .string source.data), ("media_type", .string source.mediaType),
    ("type", .string source.kind)]

def record : Record ImageSource :=
  ImageSource.mk <$> Record.field "type" string <*> Record.field "media_type" string
    <*> Record.field "data" string

def decode : Decoder ImageSource := record.decoder "ImageSource"

end ImageSource

namespace Block

/-- The mark of a failed tool result; a successful one has none. -/
def errorMark : Bool → List (String × Json)
  | true => [("is_error", .boolean true)]
  | false => []

mutual

def encode : Block → Json
  | .text words => .object [("text", .string words), ("type", .string "text")]
  | .image source => .object [("source", source.encode), ("type", .string "image")]
  | .toolUse id name input =>
      .object [("id", .string id), ("input", input), ("name", .string name),
        ("type", .string "tool_use")]
  | .toolResult toolUseId content isError =>
      .object (("content", .array (encodeAll content)) :: (errorMark isError ++
        [("tool_use_id", .string toolUseId), ("type", .string "tool_result")]))
  | .other raw => raw

def encodeAll : List Block → List Json
  | [] => []
  | block :: rest => encode block :: encodeAll rest

end

def requireText (field : String) (members : List (String × Json)) : Except DecodeError String :=
  match Json.lookupText field members with
  | some found => .ok found
  | none => .error (.blockWithoutText field)

def decodeImage (members : List (String × Json)) : Except DecodeError Block :=
  match Json.lookup "source" members with
  | none => .error .imageWithoutSource
  | some source =>
      match ImageSource.decode .direct source with
      | .ok source => .ok (.image source)
      | .error error => .error (.imageSource error)

/-- Reads a block that asks for a tool; an absent input is an empty object. -/
def decodeToolUse (members : List (String × Json)) : Except DecodeError Block := do
  let id ← requireText "id" members
  let name ← requireText "name" members
  return .toolUse id name ((Json.lookup "input" members).getD (.object []))

/-- Whether a tool result is marked as failed. -/
def isMarked (members : List (String × Json)) : Bool :=
  ((Json.lookup "is_error" members).bind Json.boolean?).getD false

/-- What an object says that it is; an absent or other `type` counts as the empty word. -/
def kind (members : List (String × Json)) : String :=
  (Json.lookupText "type" members).getD ""

mutual

def ofJson : Json → Except DecodeError Block
  | .object members =>
      match kind members with
      | "text" => (requireText "text" members).map .text
      | "image" => decodeImage members
      | "tool_use" => decodeToolUse members
      | "tool_result" => do
          let content ← contentOf members
          let toolUseId ← requireText "tool_use_id" members
          return .toolResult toolUseId content (isMarked members)
      | _ => .ok (.other (.object members))
  | found => .error (.notABlock found)

def ofItems : List Json → Except DecodeError (List Block)
  | [] => .ok []
  | item :: rest => do
      let block ← ofJson item
      let blocks ← ofItems rest
      return block :: blocks

/-- Reads the content of a tool result: blocks, or a text that stands for one text block. -/
def contentOf : List (String × Json) → Except DecodeError (List Block)
  | [] => .ok []
  | (key, value) :: rest =>
      if key = "content" then
        match value with
        | .array items => ofItems items
        | .string words => .ok [.text words]
        | _ => .ok []
      else contentOf rest

end

def decode : Decoder Block := fun _ value => ofJson value

end Block

namespace Turn

def encode (turn : Turn) : Json :=
  .object [("content", .array (Block.encodeAll turn.content)), ("role", turn.role.encode)]

def encodeAll (turns : List Turn) : Json := .array (turns.map encode)

def record : Record Turn :=
  Turn.mk <$> Record.field "role" Role.decode <*> Record.field "content" (sequence Block.decode)

def decode : Decoder Turn := record.decoder "Turn"

end Turn

end DesktopAgent
