import DesktopAgent.Json.Basic

/-!
The turns of a conversation with a model.

A turn is a role and a list of blocks. Blocks of a kind that is not interpreted are kept as they
came.
-/

namespace DesktopAgent

inductive Role where
  | user
  | assistant
deriving DecidableEq, Repr

/-- An image within a turn, as encoded data of a media type. -/
structure ImageSource where
  kind : String
  mediaType : String
  data : String
deriving DecidableEq, Repr

/-- An image of the screen, from its base64 text. -/
def ImageSource.png (data : String) : ImageSource := ⟨"base64", "image/png", data⟩

/-- One unit of a turn. -/
inductive Block where
  | text (words : String)
  | image (source : ImageSource)
  | toolUse (id name : String) (input : Json)
  | toolResult (toolUseId : String) (content : List Block) (isError : Bool)
  | other (raw : Json)
deriving Repr

namespace Block

/-- A block with an image of the screen. -/
def png (data : String) : Block := .image (.png data)

def text? : Block → Option String
  | .text words => some words
  | _ => none

def isToolUse : Block → Bool
  | .toolUse .. => true
  | _ => false

def toolUseId? : Block → Option String
  | .toolUse id _ _ => some id
  | _ => none

end Block

/-- One turn of the conversation. -/
structure Turn where
  role : Role
  content : List Block
deriving Repr

namespace Turn

def user (content : List Block) : Turn := ⟨.user, content⟩

def assistant (content : List Block) : Turn := ⟨.assistant, content⟩

def texts (turn : Turn) : List String := turn.content.filterMap Block.text?

/-- The texts of the text blocks, joined by newlines. -/
def text (turn : Turn) : String := "\n".intercalate turn.texts

def hasText (turn : Turn) : Bool := turn.content.any fun block => block.text?.isSome

def hasToolUse (turn : Turn) : Bool := turn.content.any Block.isToolUse

/-- The ids of the blocks that ask for a tool, in order. -/
def toolUseIds (turn : Turn) : List String := turn.content.filterMap Block.toolUseId?

end Turn

end DesktopAgent
