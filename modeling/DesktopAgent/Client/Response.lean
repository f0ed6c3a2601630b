import DesktopAgent.Json.Document
import DesktopAgent.Message.Wire

/-!
Reading the body of a model's response.

Of the response's object only `content` counts; it is a list of blocks, and absent it is empty.
Every other member need only be well formed. The text of the problem is given only when the body is
JSON and does not fit.
-/

namespace DesktopAgent.Client

open DesktopAgent.Json
open DesktopAgent.Wire

inductive BodyProblem where
  | malformed
  | unfit (error : DecodeError)
  | trailingItems
deriving Repr

def BodyProblem.message : BodyProblem → String
  | .malformed => "failed to parse Anthropic response JSON"
  | .unfit error => "failed to parse Anthropic response JSON: " ++ error.message
  | .trailingItems => "failed to parse Anthropic response JSON: trailing characters"

namespace Response

variable (numbers : NumberReading)

def valueOf (document : Document) (depth : Nat) : Except BodyProblem Json :=
  match document.valueAt? numbers depth with
  | some value => .ok value
  | none => .error .malformed

def misplaced {α : Type} (document : Document) (depth : Nat) (expected : Expectation) :
    Except BodyProblem α := do
  throw (.unfit (mismatch (← valueOf numbers document depth) expected))

def readBlock (document : Document) (depth : Nat) : Except BodyProblem Block := do
  match Block.ofJson (← valueOf numbers document depth) with
  | .ok block => return block
  | .error error => throw (.unfit error)

def readContent (document : Document) (depth : Nat) : Except BodyProblem (List Block) :=
  match document with
  | .array items => items.mapM fun item => readBlock numbers item (depth + 1)
  | other => misplaced numbers other depth .sequence

/-- Reads the members of the response's object, after those that gave `found`. -/
def readMembers (found : Option (List Block)) :
    List (Option String × Document) → Except BodyProblem (List Block)
  | [] => .ok (found.getD [])
  | (none, _) :: _ => .error .malformed
  | (some key, value) :: rest =>
      if key = "content" then
        if found.isSome then .error (.unfit (.repeatedField "content"))
        else do readMembers (some (← readContent numbers value 1)) rest
      else readMembers found rest

/-- Reads a response: an object, or an array of its one field. -/
def readDocument : Document → Except BodyProblem (List Block)
  | .object members => readMembers numbers none members
  | .array [] => .ok []
  | .array [content] => readContent numbers content 1
  | .array (content :: _) => do
      let _ ← readContent numbers content 1
      throw .trailingItems
  | other => misplaced numbers other 0 (.struct "MessageResponse")

/-- Reads a body. A problem of a body that is not JSON is that alone. -/
def read (body : String) : Except BodyProblem (List Block) :=
  match Document.read? body.toList with
  | none => .error .malformed
  | some document =>
      match readDocument numbers document with
      | .ok blocks => .ok blocks
      | .error problem =>
          if (document.valueAt? numbers 0).isSome then .error problem else .error .malformed

end Response

end DesktopAgent.Client
