import DesktopAgent.Action.Input
import DesktopAgent.Agent.Computer
import DesktopAgent.Agent.Config
import DesktopAgent.Agent.Report
import DesktopAgent.Agent.Trace

/-!
The loop of an agent.

A run begins with a picture of the screen. Each round asks the model with the whole conversation so
far; a reply that asks for tools is answered with one result for each use, in order, and a reply
that asks for none is the answer. The run ends with the answer, at the end of its budget, or when it
is told to stop between two rounds; a failure of the computer or the model ends it at once. An input
that is no action is told to the model and is no failure.
-/

namespace DesktopAgent

/-- An agent: its two partners, its settings, and when it is told to stop. -/
structure Agent (σ μ : Type) where
  computer : Computer σ
  model : Model μ
  config : Agent.Config
  cancellation : Cancellation

namespace Agent

variable {σ μ : Type}

/-- Where a run stands: what it has done and the states of its partners. -/
structure Progress (σ μ : Type) where
  trace : Trace
  computer : σ
  model : μ

/-- A stretch of a run that gives a value or fails. What was done before a failure stays done. -/
abbrev Stretch (σ μ α : Type) := ExceptT Failure (StateM (Progress σ μ)) α

def note (entry : Entry) : Stretch σ μ Unit :=
  modify fun progress => { progress with trace := progress.trace ++ [entry] }

def emit (event : Event) : Stretch σ μ Unit := note (.event event)

def callComputer {α : Type} (call : σ → Except Failure α × σ) : Stretch σ μ α := do
  let progress ← get
  let (result, computer) := call progress.computer
  set { progress with computer := computer }
  MonadExcept.ofExcept result

def callModel {α : Type} (call : μ → Except Failure α × μ) : Stretch σ μ α := do
  let progress ← get
  let (result, model) := call progress.model
  set { progress with model := model }
  MonadExcept.ofExcept result

variable (agent : Agent σ μ)

def takeScreenshot : Stretch σ μ String := do
  note .screenshot
  let base64 ← callComputer agent.computer.screenshot
  emit (.screenshot base64)
  return base64

def perform (action : Action) : Stretch σ μ Observation := do
  note (.execute action)
  callComputer (agent.computer.execute action)

def requestFor (history : List Turn) : Request where
  model := agent.config.model
  messages := history
  tools := [ToolDeclaration.computer agent.config.toolKind agent.computer.dimensions]
  system := agent.config.systemPrompt
  maxTokens := agent.config.maxTokens
  betas := agent.config.betas

/-- Asks the model. Whatever role its reply states, it is the assistant's turn. -/
def ask (history : List Turn) : Stretch σ μ Turn := do
  note (.request (agent.requestFor history))
  let reply ← callModel (agent.model.reply (agent.requestFor history))
  return { reply with role := .assistant }

/-- What an observation is in the conversation; a picture is also shown. -/
def showObservation : Observation → Stretch σ μ (List Block)
  | .screenshot base64 => do
      emit (.screenshot base64)
      return [.png base64]
  | .cursorPosition report => return [.text report]

def runTool (id : String) (input : Json) : Stretch σ μ Block :=
  match Action.ofInput input with
  | .ok action => do
      emit (.action action)
      let observation ← agent.perform action
      let content ← showObservation observation
      return .toolResult id content false
  | .error error => do
      let base64 ← agent.takeScreenshot
      return .toolResult id [.text ("Error: " ++ error.message), .png base64] true

/-- Goes through the blocks of a reply that asks for tools: texts are told, tool uses are answered,
other blocks are passed over. -/
def act : List Block → Stretch σ μ (List Block)
  | [] => return []
  | .text words :: rest => do
      emit (.text words)
      act rest
  | .toolUse id _ input :: rest => do
      let result ← agent.runTool id input
      let results ← act rest
      return result :: results
  | _ :: rest => act rest

/-- Tells the answer when there is a text at all. -/
def tellAnswer (reply : Turn) : Stretch σ μ Unit :=
  if reply.hasText then emit (.text reply.text) else return ()

def isCancelled : Stretch σ μ Bool := do
  return agent.cancellation.isDue (← get).trace

/-- At most `budget` more rounds of a run in which the model was asked `asked` times. -/
def rounds (runId : String) : Nat → UInt64 → List Turn → Stretch σ μ Report
  | 0, asked, history => return ⟨runId, .budgetExhausted, asked, history⟩
  | budget + 1, asked, history => do
      if ← agent.isCancelled then
        return ⟨runId, .cancelled, asked, history⟩
      else
        let reply ← agent.ask history
        if reply.hasToolUse then
          let results ← agent.act reply.content
          rounds runId budget (asked + 1) (history ++ [reply, .user results])
        else
          tellAnswer reply
          return ⟨runId, .answered reply.text, asked + 1, history ++ [reply]⟩

def seed (task base64 : String) : Turn := .user [.text task, .png base64]

def run (runId task : String) : Stretch σ μ Report := do
  let base64 ← agent.takeScreenshot
  agent.rounds runId agent.config.maxIterations.toNat 0 [seed task base64]

/-- Runs the agent from states of its partners: how it ends, what it did, and the states after. -/
def execute (runId task : String) (computer : σ) (model : μ) :
    Except Failure Report × Progress σ μ :=
  (agent.run runId task).run ⟨[], computer, model⟩

end Agent

end DesktopAgent
