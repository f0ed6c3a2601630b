import DesktopAgent.Proofs.Agent.Stretch

/-!
A run is a dialogue with its partners.

A dialogue says what is done next for everything that a call can give. An agent and its partners are
kept apart by it: whatever the partners are, agents with the same settings hold the same dialogue.
So what is said of every dialogue holds of every run, and runs with different partners can be
compared.
-/

namespace DesktopAgent

/-- A call to a partner. -/
inductive Call where
  | screenshot
  | execute (action : Action)
  | request (asked : Request)

namespace Call

/-- What a call gives when it does not fail. -/
abbrev Value : Call → Type
  | .screenshot => String
  | .execute _ => Observation
  | .request _ => Turn

/-- How a call is noted. -/
def entry : Call → Entry
  | .screenshot => .screenshot
  | .execute action => .execute action
  | .request asked => .request asked

end Call

namespace Agent

variable {σ μ : Type}

/-- The states of both partners. -/
def Progress.partners (progress : Progress σ μ) : σ × μ :=
  (progress.computer, progress.model)

/-- What a call gives from states of the partners, and the states after it. -/
def answer (agent : Agent σ μ) :
    (call : Call) → σ × μ → Except Failure call.Value × (σ × μ)
  | .screenshot, partners =>
      ((agent.computer.screenshot partners.1).1,
        (agent.computer.screenshot partners.1).2, partners.2)
  | .execute action, partners =>
      ((agent.computer.execute action partners.1).1,
        (agent.computer.execute action partners.1).2, partners.2)
  | .request asked, partners =>
      ((agent.model.reply asked partners.2).1, partners.1,
        (agent.model.reply asked partners.2).2)

/-- Notes a call and makes it. -/
def callOut (agent : Agent σ μ) : (call : Call) → Stretch σ μ call.Value
  | .screenshot => do
      note .screenshot
      callComputer agent.computer.screenshot
  | .execute action => agent.perform action
  | .request asked => do
      note (.request asked)
      callModel (agent.model.reply asked)

theorem run_callOut
    (agent : Agent σ μ) (call : Call) (progress : Progress σ μ) :
    (agent.callOut call).run progress =
      ((agent.answer call progress.partners).1,
        { trace := progress.trace ++ [call.entry]
          computer := (agent.answer call progress.partners).2.1
          model := (agent.answer call progress.partners).2.2 }) := by
  have noted (entry : Entry) :
      (note entry : Stretch σ μ Unit).run progress =
        (.ok (), { progress with trace := progress.trace ++ [entry] }) :=
    rfl
  cases call with
  | screenshot =>
      rw [callOut, run_bind, noted]
      exact run_callComputer _ _
  | execute action =>
      rw [callOut, perform, run_bind, noted]
      exact run_callComputer _ _
  | request asked =>
      rw [callOut, run_bind, noted]
      exact run_callModel _ _

end Agent

/-- What is done until a value is reached: events are told, calls are made and may give any value,
and now and then it is checked whether to stop. A failure of a call ends the dialogue. -/
inductive Dialogue (α : Type) where
  | ends (value : α)
  | tells (event : Event) (next : Dialogue α)
  | calls (call : Call) (next : call.Value → Dialogue α)
  | checks (next : Bool → Dialogue α)

namespace Dialogue

variable {α β σ μ : Type}

/-- A dialogue as an agent holds it with its partners. -/
def held (agent : Agent σ μ) : Dialogue α → Agent.Stretch σ μ α
  | ends value => pure value
  | tells event next => do
      Agent.emit event
      held agent next
  | calls call next => do
      let value ← agent.callOut call
      held agent (next value)
  | checks next => do
      let due ← agent.isCancelled
      held agent (next due)

theorem run_held_tells
    (agent : Agent σ μ) (event : Event) (next : Dialogue α)
    (progress : Agent.Progress σ μ) :
    ((tells event next).held agent).run progress =
      (next.held agent).run
        { progress with trace := progress.trace ++ [.event event] } := by
  rw [held, Agent.run_bind]
  rfl

theorem run_held_calls
    (agent : Agent σ μ) (call : Call) (next : call.Value → Dialogue α)
    (progress : Agent.Progress σ μ) :
    ((calls call next).held agent).run progress =
      match agent.answer call progress.partners with
      | (.ok value, computer, model) =>
          ((next value).held agent).run
            ⟨progress.trace ++ [call.entry], computer, model⟩
      | (.error failure, computer, model) =>
          (.error failure, ⟨progress.trace ++ [call.entry], computer, model⟩) := by
  rw [held, Agent.run_bind, Agent.run_callOut]
  rcases agent.answer call progress.partners with ⟨failure | value, computer, model⟩
  · rfl
  · rfl

theorem run_held_checks
    (agent : Agent σ μ) (next : Bool → Dialogue α) (progress : Agent.Progress σ μ) :
    ((checks next).held agent).run progress =
      ((next (agent.cancellation.isDue progress.trace)).held agent).run progress := by
  rw [held, Agent.run_bind]
  rfl

/-- A dialogue, and the one that goes on with its value. -/
def followedBy (next : α → Dialogue β) : Dialogue α → Dialogue β
  | ends value => next value
  | tells event later => tells event (followedBy next later)
  | calls call later => calls call fun value => followedBy next (later value)
  | checks later => checks fun due => followedBy next (later due)

theorem held_followedBy
    (agent : Agent σ μ) (dialogue : Dialogue α) (next : α → Dialogue β) :
    (dialogue.followedBy next).held agent =
      dialogue.held agent >>= fun value => (next value).held agent := by
  induction dialogue with
  | ends value => simp only [followedBy, held, pure_bind]
  | tells event later inductionHypothesis =>
      simp only [followedBy, held, inductionHypothesis, bind_assoc]
  | calls call later inductionHypothesis =>
      simp only [followedBy, held, inductionHypothesis, bind_assoc]
  | checks later inductionHypothesis =>
      simp only [followedBy, held, inductionHypothesis, bind_assoc]

end Dialogue

namespace Agent

variable {α β : Type}

/-- A part of a run that agents with the same requests go through as one dialogue. -/
def IsDialogue
    (requestFor : List Turn → Request)
    (stretch : (σ μ : Type) → Agent σ μ → Stretch σ μ α) : Prop :=
  ∃ dialogue : Dialogue α, ∀ (σ μ : Type) (agent : Agent σ μ),
    agent.requestFor = requestFor → stretch σ μ agent = dialogue.held agent

namespace IsDialogue

variable {requestFor : List Turn → Request}

theorem value (value : α) :
    IsDialogue requestFor fun _ _ _ => pure value :=
  ⟨.ends value, fun _ _ _ _ => rfl⟩

theorem bind
    {first : (σ μ : Type) → Agent σ μ → Stretch σ μ α}
    {next : (σ μ : Type) → Agent σ μ → α → Stretch σ μ β}
    (begins : IsDialogue requestFor first)
    (goesOn : ∀ value, IsDialogue requestFor fun σ μ agent => next σ μ agent value) :
    IsDialogue requestFor fun σ μ agent => first σ μ agent >>= next σ μ agent := by
  obtain ⟨dialogue, same⟩ := begins
  -- What follows each value is chosen before any partners are given.
  obtain ⟨later, sameLater⟩ := Classical.axiomOfChoice goesOn
  refine ⟨dialogue.followedBy later, ?_⟩
  intro σ μ agent requests
  have goes : next σ μ agent = fun value => (later value).held agent :=
    funext fun value => sameLater value σ μ agent requests
  rw [Dialogue.held_followedBy, ← same σ μ agent requests, ← goes]

theorem of_eq
    {first second : (σ μ : Type) → Agent σ μ → Stretch σ μ α}
    (same : ∀ (σ μ : Type) (agent : Agent σ μ), agent.requestFor = requestFor →
      first σ μ agent = second σ μ agent)
    (isDialogue : IsDialogue requestFor second) :
    IsDialogue requestFor first := by
  obtain ⟨dialogue, held⟩ := isDialogue
  refine ⟨dialogue, ?_⟩
  intro σ μ agent requests
  rw [same σ μ agent requests, held σ μ agent requests]

theorem told (event : Event) :
    IsDialogue requestFor fun _ _ _ => emit event := by
  refine ⟨.tells event (.ends ()), ?_⟩
  intro σ μ agent _
  simp only [Dialogue.held]
  exact (bind_pure _).symm

theorem called (call : Call) :
    IsDialogue requestFor fun _ _ agent => agent.callOut call := by
  refine ⟨.calls call .ends, ?_⟩
  intro σ μ agent _
  exact (bind_pure (agent.callOut call)).symm

theorem checked : IsDialogue requestFor fun _ _ agent => agent.isCancelled := by
  refine ⟨.checks .ends, ?_⟩
  intro σ μ agent _
  exact (bind_pure agent.isCancelled).symm

theorem takeScreenshot :
    IsDialogue requestFor fun _ _ agent => agent.takeScreenshot := by
  have isDialogue :
      IsDialogue requestFor fun _ _ agent =>
        agent.callOut .screenshot >>= fun base64 =>
          emit (.screenshot base64) >>= fun _ => pure base64 :=
    (called .screenshot).bind fun base64 =>
      (told (.screenshot base64)).bind fun _ => value base64
  apply isDialogue.of_eq
  intro σ μ agent _
  simp only [Agent.takeScreenshot, callOut, bind_assoc]

theorem ask (history : List Turn) :
    IsDialogue requestFor fun _ _ agent => agent.ask history := by
  have isDialogue :
      IsDialogue requestFor fun _ _ agent =>
        agent.callOut (.request (requestFor history)) >>= fun reply =>
          pure { reply with role := .assistant } :=
    (called (.request (requestFor history))).bind fun _ => value _
  apply isDialogue.of_eq
  intro σ μ agent requests
  simp only [Agent.ask, callOut, bind_assoc, requests]

theorem showObservation (observation : Observation) :
    IsDialogue requestFor fun _ _ _ => Agent.showObservation observation := by
  cases observation with
  | screenshot base64 =>
      exact (told (.screenshot base64)).bind fun _ => value _
  | cursorPosition report => exact value _

theorem runTool (id : String) (input : Json) :
    IsDialogue requestFor fun _ _ agent => agent.runTool id input := by
  unfold Agent.runTool
  cases Action.ofInput input with
  | ok action =>
      exact (told (.action action)).bind fun _ =>
        (called (.execute action)).bind fun observation =>
          (showObservation observation).bind fun _ => value _
  | error error =>
      exact takeScreenshot.bind fun _ => value _

theorem act (blocks : List Block) :
    IsDialogue requestFor fun _ _ agent => agent.act blocks := by
  induction blocks with
  | nil => exact value []
  | cons block blocks inductionHypothesis =>
      cases block with
      | text words =>
          exact (told (.text words)).bind fun _ => inductionHypothesis
      | toolUse id name input =>
          exact (runTool id input).bind fun _ =>
            inductionHypothesis.bind fun _ => value _
      | image source => exact inductionHypothesis
      | toolResult id content isError => exact inductionHypothesis
      | other raw => exact inductionHypothesis

theorem tellAnswer (reply : Turn) :
    IsDialogue requestFor fun _ _ _ => Agent.tellAnswer reply := by
  unfold Agent.tellAnswer
  split
  · exact told (.text reply.text)
  · exact value ()

theorem rounds (runId : String) (budget : Nat) (asked : UInt64) (history : List Turn) :
    IsDialogue requestFor fun _ _ agent => agent.rounds runId budget asked history := by
  induction budget generalizing asked history with
  | zero => exact value _
  | succ budget inductionHypothesis =>
      apply checked.bind
      intro due
      cases due with
      | true => exact value _
      | false =>
          apply (ask history).bind
          intro reply
          by_cases acts : reply.hasToolUse = true
          · simp only [if_pos acts]
            exact (act reply.content).bind fun results =>
              inductionHypothesis (asked + 1) (history ++ [reply, .user results])
          · simp only [if_neg acts]
            exact (tellAnswer reply).bind fun _ => value _

end IsDialogue

/-- Agents with the same requests and the same budget run as one dialogue. -/
theorem exists_dialogue_of_run
    (requestFor : List Turn → Request) (budget : UInt64) (runId task : String) :
    ∃ dialogue : Dialogue Report, ∀ (σ μ : Type) (agent : Agent σ μ),
      agent.requestFor = requestFor → agent.config.maxIterations = budget →
        agent.run runId task = dialogue.held agent := by
  have isDialogue :
      IsDialogue requestFor fun _ _ agent =>
        agent.takeScreenshot >>= fun base64 =>
          agent.rounds runId budget.toNat 0 [seed task base64] :=
    IsDialogue.takeScreenshot.bind fun base64 =>
      IsDialogue.rounds runId budget.toNat 0 [seed task base64]
  obtain ⟨dialogue, held⟩ := isDialogue
  refine ⟨dialogue, ?_⟩
  intro σ μ agent requests budgets
  rw [← held σ μ agent requests, ← budgets]
  rfl

end Agent

end DesktopAgent
