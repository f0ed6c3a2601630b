import DesktopAgent.Action.Wire

/-!
What a run tells those who watch it.
-/

namespace DesktopAgent

open DesktopAgent.Wire

inductive Event where
  | screenshot (base64 : String)
  | text (content : String)
  | action (performed : Action)
deriving DecidableEq, Repr

namespace Event

def encode : Event → Json
  | .screenshot base64 => .object [("base64", .string base64), ("type", .string "screenshot")]
  | .text content => .object [("content", .string content), ("type", .string "text")]
  | .action performed => .object [("action", performed.encode), ("type", .string "action")]

def variants : List (Variant Event) :=
  [⟨"screenshot", "Screenshot", .record (.screenshot <$> Record.field "base64" string)⟩,
    ⟨"text", "Text", .record (.text <$> Record.field "content" string)⟩,
    ⟨"action", "Action", .record (.action <$> Record.field "action" Action.decode)⟩]

def decode : Decoder Event := Variant.tagged "AgentEvent" "type" variants

end Event

end DesktopAgent
