import DesktopAgent.Wire.Variant

/-!
The ways in which a run can fail.
-/

namespace DesktopAgent

open DesktopAgent.Text
open DesktopAgent.Wire

inductive Failure where
  | displayStartTimeout (display : String) (waitedMs : Nat)
  | displayAlreadyStarted
  | displayNotStarted
  | spawn (reason : String)
  | screenshot (reason : String)
  | model (reason : String)
  | io (reason : String)
deriving DecidableEq, Repr

namespace Failure

def message : Failure → String
  | .displayStartTimeout display waitedMs =>
      "display " ++ display ++ " not ready after " ++ Numeral.text waitedMs ++ "ms"
  | .displayAlreadyStarted => "display session already started"
  | .displayNotStarted => "display session not started"
  | .spawn reason => "spawn error: " ++ reason
  | .screenshot reason => "screenshot error: " ++ reason
  | .model reason => "model error: " ++ reason
  | .io reason => "io error: " ++ reason

/-- An object with a single key. -/
def keyed (name : String) (content : Json) : Json := .object [(name, content)]

def encode : Failure → Json
  | .displayStartTimeout display waitedMs =>
      keyed "DisplayStartTimeout"
        (.object [("display", .string display), ("waited_ms", .nat waitedMs)])
  | .displayAlreadyStarted => .string "DisplayAlreadyStarted"
  | .displayNotStarted => .string "DisplayNotStarted"
  | .spawn reason => keyed "Spawn" (.string reason)
  | .screenshot reason => keyed "Screenshot" (.string reason)
  | .model reason => keyed "Model" (.string reason)
  | .io reason => keyed "Io" (.string reason)

def reasoned (failure : String → Failure) : Payload Failure :=
  .single fun source value => (string source value).map failure

def variants : List (Variant Failure) :=
  [⟨"DisplayStartTimeout", "DisplayStartTimeout", .record (.displayStartTimeout
      <$> Record.field "display" string <*> Record.field "waited_ms" natural)⟩,
    ⟨"DisplayAlreadyStarted", "DisplayAlreadyStarted", .nothing .displayAlreadyStarted⟩,
    ⟨"DisplayNotStarted", "DisplayNotStarted", .nothing .displayNotStarted⟩,
    ⟨"Spawn", "Spawn", reasoned .spawn⟩,
    ⟨"Screenshot", "Screenshot", reasoned .screenshot⟩,
    ⟨"Model", "Model", reasoned .model⟩,
    ⟨"Io", "Io", reasoned .io⟩]

def decode : Decoder Failure := Variant.untagged variants

end Failure

end DesktopAgent
