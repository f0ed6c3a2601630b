import DesktopAgent.Json.Token

/-!
JSON texts before their numbers, strings and repeated keys are given a meaning.

A document is built by a machine with a stack of open arrays and objects, one token at a time. Its
value exists when every numeral is read as a number, no string holds half of a surrogate pair and
the nesting is at most 127 deep. How numerals are read is left to whoever reads the text.
-/

namespace DesktopAgent.Json

/-- The tree of a JSON text. Members stand as written, repeated keys included. -/
inductive Document where
  | null
  | boolean (value : Bool)
  | number (numeral : NumberText)
  | string (text : Option String)
  | array (items : List Document)
  | object (members : List (Option String × Document))
deriving Repr

/-- An open array, an open object between members, or an open object with the key whose value
follows. Items and members are kept in reverse order. -/
inductive Frame where
  | array (items : List Document)
  | object (members : List (Option String × Document))
  | member (members : List (Option String × Document)) (key : Option String)
deriving Repr

/-- What the next token may be. -/
inductive Phase where
  | value
  | firstItem
  | key
  | firstKey
  | colon
  | separator
  | done (document : Document)
deriving Repr

/-- The machine between two tokens, with the innermost open array or object first. -/
structure Builder where
  frames : List Frame
  phase : Phase
deriving Repr

namespace Builder

def start : Builder := ⟨[], .value⟩

/-- Takes a finished value into the innermost open array or object. -/
def finish? (document : Document) : List Frame → Option Builder
  | [] => some ⟨[], .done document⟩
  | .array items :: outer => some ⟨.array (document :: items) :: outer, .separator⟩
  | .member members key :: outer => some ⟨.object ((key, document) :: members) :: outer, .separator⟩
  | .object _ :: _ => none

def beginValue? (frames : List Frame) : Token → Option Builder
  | .null => finish? .null frames
  | .boolean value => finish? (.boolean value) frames
  | .number numeral => finish? (.number numeral) frames
  | .string text => finish? (.string text) frames
  | .openArray => some ⟨.array [] :: frames, .firstItem⟩
  | .openObject => some ⟨.object [] :: frames, .firstKey⟩
  | .closeArray | .closeObject | .comma | .colon => none

def closeArray? : List Frame → Option Builder
  | .array items :: outer => finish? (.array items.reverse) outer
  | _ => none

def closeObject? : List Frame → Option Builder
  | .object members :: outer => finish? (.object members.reverse) outer
  | _ => none

def beginMember? (key : Option String) : List Frame → Option Builder
  | .object members :: outer => some ⟨.member members key :: outer, .colon⟩
  | _ => none

/-- What follows a comma. -/
def continue? : List Frame → Option Builder
  | .array items :: outer => some ⟨.array items :: outer, .value⟩
  | .object members :: outer => some ⟨.object members :: outer, .key⟩
  | _ => none

def step? (builder : Builder) (token : Token) : Option Builder :=
  match builder.phase, token with
  | .firstItem, .closeArray => closeArray? builder.frames
  | .firstItem, token => beginValue? builder.frames token
  | .value, token => beginValue? builder.frames token
  | .firstKey, .closeObject => closeObject? builder.frames
  | .firstKey, .string key => beginMember? key builder.frames
  | .key, .string key => beginMember? key builder.frames
  | .colon, .colon => some ⟨builder.frames, .value⟩
  | .separator, .comma => continue? builder.frames
  | .separator, .closeArray => closeArray? builder.frames
  | .separator, .closeObject => closeObject? builder.frames
  | _, _ => none

def run? (builder : Builder) : List Token → Option Builder
  | [] => some builder
  | token :: rest => do (← builder.step? token).run? rest

end Builder

namespace Document

/-- The document of a text; none when the text is not well formed. -/
def read? (text : List Char) : Option Document := do
  let builder ← Builder.start.run? (← tokens? text)
  match builder.phase with
  | .done document => some document
  | _ => none

/-- How deep arrays and objects may be nested. -/
def greatestDepth : Nat := 127

mutual

def depth : Document → Nat
  | .array items => depthOfItems items + 1
  | .object members => depthOfMembers members + 1
  | _ => 0

def depthOfItems : List Document → Nat
  | [] => 0
  | item :: rest => max (depth item) (depthOfItems rest)

def depthOfMembers : List (Option String × Document) → Nat
  | [] => 0
  | (_, value) :: rest => max (depth value) (depthOfMembers rest)

end

variable (numbers : NumberReading)

mutual

/-- The value of a document, whatever its depth. -/
def content? : Document → Option Json
  | .null => some .null
  | .boolean value => some (.boolean value)
  | .number numeral => (numbers numeral).map .number
  | .string text => text.map .string
  | .array items => (contentOfItems? items).map .array
  | .object members => (contentOfMembers? members).map ofMembers

def contentOfItems? : List Document → Option (List Json)
  | [] => some []
  | item :: rest => do
      let value ← content? item
      let values ← contentOfItems? rest
      some (value :: values)

def contentOfMembers? : List (Option String × Document) → Option (List (String × Json))
  | [] => some []
  | (key, item) :: rest => do
      let name ← key
      let value ← content? item
      let values ← contentOfMembers? rest
      some ((name, value) :: values)

end

def valueAt? (document : Document) (depth : Nat) : Option Json :=
  if depth + document.depth ≤ greatestDepth then document.content? numbers else none

end Document

def parse? (numbers : NumberReading) (text : String) : Option Json := do
  (← Document.read? text.toList).valueAt? numbers 0

end DesktopAgent.Json
