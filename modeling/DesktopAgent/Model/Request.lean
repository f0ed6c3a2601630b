import DesktopAgent.Message.Wire

/-!
What a model is asked.

A request carries the whole conversation so far and declares one tool, the computer with the size of
its screen. The beta features that the request wants are named beside it and are not part of its
wire form.
-/

namespace DesktopAgent

open DesktopAgent.Wire

/-- The size of a screen in pixels. -/
structure Dimensions where
  width : UInt32
  height : UInt32
deriving DecidableEq, Repr

/-- A tool as it is declared to the model. -/
structure ToolDeclaration where
  kind : String
  name : String
  displayWidth : UInt32
  displayHeight : UInt32
deriving DecidableEq, Repr

namespace ToolDeclaration

def computerName : String := "computer"

def defaultKind : String := "computer_20250124"

def computer (kind : String) (size : Dimensions) : ToolDeclaration :=
  ⟨kind, computerName, size.width, size.height⟩

def encode (tool : ToolDeclaration) : Json :=
  .object [("display_height_px", .nat tool.displayHeight.toNat),
    ("display_width_px", .nat tool.displayWidth.toNat), ("name", .string tool.name),
    ("type", .string tool.kind)]

def record : Record ToolDeclaration :=
  ToolDeclaration.mk <$> Record.field "type" string <*> Record.field "name" string
    <*> Record.field "display_width_px" uint32 <*> Record.field "display_height_px" uint32

def decode : Decoder ToolDeclaration := record.decoder "ToolDeclaration"

end ToolDeclaration

/-- One request to a model. -/
structure Request where
  model : String
  messages : List Turn
  tools : List ToolDeclaration
  system : String
  maxTokens : UInt32
  betas : List String
deriving Repr

/-- The wire form of a request. The betas are left out. -/
def Request.encode (request : Request) : Json :=
  .object [("max_tokens", .nat request.maxTokens.toNat),
    ("messages", Turn.encodeAll request.messages), ("model", .string request.model),
    ("system", .string request.system),
    ("tools", .array (request.tools.map ToolDeclaration.encode))]

end DesktopAgent
