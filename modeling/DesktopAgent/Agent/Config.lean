import DesktopAgent.Model.Request

/-!
The settings of an agent and what they are when the environment says nothing.
-/

namespace DesktopAgent

abbrev Environment := String → Option String

namespace Agent

/-- The settings of an agent. -/
structure Config where
  model : String
  maxTokens : UInt32
  maxIterations : UInt64
  systemPrompt : String
  betas : List String
  toolKind : String
deriving DecidableEq, Repr

namespace Config

def defaultModel : String := "claude-sonnet-4-20250514"

def computerUseBeta : String := "computer-use-2025-01-24"

/-- The instructions that open every conversation. -/
def defaultPrompt : String :=
  "You are a computer use agent. You control a desktop with a browser to complete tasks.\n" ++
  "You can see the screen via screenshots and interact using mouse clicks, keyboard input, " ++
  "and scrolling.\n" ++
  "Be methodical: look at the screen, plan your action, execute it, then verify the result.\n" ++
  "When the task is complete, respond with a text summary of what you accomplished.\n"

/-- The settings for an environment, in which `CUA_MODEL` may name the model. -/
def ofEnvironment (environment : Environment) : Config where
  model := (environment "CUA_MODEL").getD defaultModel
  maxTokens := 4096
  maxIterations := 50
  systemPrompt := defaultPrompt
  betas := [computerUseBeta]
  toolKind := ToolDeclaration.defaultKind

end Config

end Agent

end DesktopAgent
