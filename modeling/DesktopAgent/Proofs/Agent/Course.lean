import DesktopAgent.Proofs.Agent.Round
import DesktopAgent.Rehearsal.Agent

/-!
The course of a run: every way in which its rounds can go.

A course says what a number of rounds may do, how they may end and with which conversation. When a
run is told to stop is left open, so what holds of every course holds whenever that happens. Each
theorem about whole runs is an induction on courses; no other module looks into the loop.
-/

namespace DesktopAgent.Agent

variable {σ μ : Type}

/-- The course of at most so many rounds, from the number of requests made, the conversation and
the state of the model: how the run ends and what it does. -/
inductive Course (agent : Agent σ μ) (runId : String) :
    Nat → UInt64 → List Turn → μ → Except Failure Report → Trace → Prop
  /-- No round is left. -/
  | exhausted {asked : UInt64} {history : List Turn} {model : μ} :
      Course agent runId 0 asked history model
        (.ok ⟨runId, .budgetExhausted, asked, history⟩) []
  /-- The run is told to stop. -/
  | cancelled {budget : Nat} {asked : UInt64} {history : List Turn} {model : μ} :
      Course agent runId (budget + 1) asked history model
        (.ok ⟨runId, .cancelled, asked, history⟩) []
  /-- The model fails. -/
  | unheard {budget : Nat} {asked : UInt64} {history : List Turn} {model : μ}
      {failure : Failure} :
      (agent.replyTo history model).1 = .error failure →
      Course agent runId (budget + 1) asked history model
        (.error failure) [.request (agent.requestFor history)]
  /-- The reply asks for no tool. -/
  | answered {budget : Nat} {asked : UInt64} {history : List Turn} {model : μ}
      {reply : Turn} :
      (agent.replyTo history model).1 = .ok reply →
      reply.hasToolUse = false →
      Course agent runId (budget + 1) asked history model
        (.ok ⟨runId, .answered reply.text, asked + 1,
          history ++ [.assistant reply.content]⟩)
        (.request (agent.requestFor history) :: answerTold reply)
  /-- A use of the tool fails. -/
  | interrupted {budget : Nat} {asked : UInt64} {history : List Turn} {model : μ}
      {reply : Turn} {failure : Failure} {done : Trace} :
      (agent.replyTo history model).1 = .ok reply →
      reply.hasToolUse = true →
      done.requests = [] →
      Course agent runId (budget + 1) asked history model
        (.error failure) (.request (agent.requestFor history) :: done)
  /-- Every use of the tool is answered, and the run goes on. -/
  | continued {budget : Nat} {asked : UInt64} {history : List Turn} {model : μ}
      {reply : Turn} {results : List Block} {done later : Trace}
      {result : Except Failure Report} :
      (agent.replyTo history model).1 = .ok reply →
      reply.hasToolUse = true →
      Answered reply.content results done →
      Course agent runId budget (asked + 1)
        (history ++ [.assistant reply.content, .user results])
        (agent.replyTo history model).2 result later →
      Course agent runId (budget + 1) asked history model result
        (.request (agent.requestFor history) :: (done ++ later))

variable (agent : Agent σ μ) (runId : String)

/-- By induction on the rounds that are left. -/
theorem rounds_meets
    (budget : Nat) (asked : UInt64) (history : List Turn)
    (progress : Progress σ μ) :
    Meets (agent.rounds runId budget asked history) progress fun result done _ =>
      Course agent runId budget asked history progress.model result done := by
  induction budget generalizing asked history progress with
  | zero =>
      exact Meets.pure .exhausted
  | succ budget inductionHypothesis =>
      unfold rounds
      apply Meets.bind (agent.isCancelled_meets progress)
      · intro isDue done start met
        obtain ⟨_, rfl, rfl⟩ := met
        split
        · exact Meets.pure .cancelled
        · apply Meets.bind (agent.ask_meets history start)
          · intro turn done middle met
            obtain ⟨rfl, moved, reply, heard, rfl⟩ := met
            split
            · rename_i acts
              apply Meets.bind (agent.act_meets _ middle)
              · intro results done after met
                obtain ⟨kept, _, answers⟩ := met
                apply (inductionHypothesis _ _ after).mono
                intro result later _ course
                rw [kept, moved] at course
                have whole :=
                  Course.continued heard acts (answers results rfl) course
                exact whole
              · intro failure done after met
                obtain ⟨_, quiet, _⟩ := met
                exact .interrupted heard acts quiet
            · rename_i final
              apply Meets.bind (tellAnswer_meets _ middle)
              · intro value done after met
                obtain ⟨_, rfl, _⟩ := met
                apply Meets.pure
                have whole : Course agent runId (budget + 1) asked history
                    start.model _ _ :=
                  .answered heard (eq_false_of_ne_true final)
                rw [List.append_nil]
                exact whole
              · intro failure done after met
                obtain ⟨impossible, _⟩ := met
                cases impossible
          · intro failure done middle met
            obtain ⟨rfl, _, unheard⟩ := met
            exact .unheard unheard
      · intro failure done after met
        obtain ⟨impossible, _⟩ := met
        cases impossible

/-- How a whole run goes: it ends without a first picture, or its rounds take their course from the
conversation that the picture opens. -/
inductive Execution (task : String) (computer : σ) (model : μ) :
    Except Failure Report → Trace → Prop
  | blind {failure : Failure} :
      (agent.computer.screenshot computer).1 = .error failure →
      Execution task computer model (.error failure) [.screenshot]
  | sighted {base64 : String} {result : Except Failure Report} {later : Trace} :
      (agent.computer.screenshot computer).1 = .ok base64 →
      Course agent runId agent.config.maxIterations.toNat 0
        [seed task base64] model result later →
      Execution task computer model result
        (.screenshot :: .event (.screenshot base64) :: later)

theorem execution_of_execute
    {task : String} {computer : σ} {model : μ}
    {result : Except Failure Report} {final : Progress σ μ}
    (ran : agent.execute runId task computer model = (result, final)) :
    Execution agent runId task computer model result final.trace := by
  have meets :
      Meets (agent.run runId task) ⟨[], computer, model⟩ fun result done _ =>
        Execution agent runId task computer model result done := by
    unfold run
    apply Meets.bind (agent.takeScreenshot_meets _)
    · intro base64 done after met
      obtain ⟨taken, rfl, kept⟩ := met
      apply (agent.rounds_meets runId _ _ _ after).mono
      intro result later _ course
      rw [kept] at course
      have whole := Execution.sighted taken.symm course
      exact whole
    · intro failure done after met
      obtain ⟨failed, rfl, _⟩ := met
      exact .blind failed.symm
  obtain ⟨done, traced, execution⟩ := meets
  change (agent.execute runId task computer model).2.trace = [] ++ done at traced
  change Execution agent runId task computer model
    (agent.execute runId task computer model).1 done at execution
  rw [ran] at traced execution
  rw [traced]
  exact execution

/-- Three replies. The first states the wrong role and uses the tool twice under one id, the second
time with an input that is no action; the last asks for no tool. -/
def rehearsedReplies : Rehearsal.Replies where
  next :=
    [.ok (.user [.text "Looking.",
      .toolUse "a" "computer" (.object [("action", .string "left_click")]),
      .toolUse "a" "computer" (.string "left_click")]),
    .ok (.assistant
      [.toolUse "b" "computer" (.object [("action", .string "cursor_position")])]),
    .ok (.assistant [.text "Found", .other .null, .text "it."])]
  afterwards := none

/-- The agent for these replies, with a budget that they use up. -/
def rehearsedAgent : Agent Rehearsal.Screens Rehearsal.Replies where
  computer := Rehearsal.computer ⟨1280, 800⟩
  model := Rehearsal.model
  config := { Config.ofEnvironment fun _ => none with maxIterations := 3 }
  cancellation := .never

def rehearsed :
    Except Failure Report × Progress Rehearsal.Screens Rehearsal.Replies :=
  rehearsedAgent.execute "run" "task" ⟨[], [], 0⟩ rehearsedReplies

def rehearsedReport : Report where
  runId := "run"
  completion := .answered "Found\nit."
  iterations := 3
  history :=
    [.user [.text "task", .png "screen-0"],
    .assistant [.text "Looking.",
      .toolUse "a" "computer" (.object [("action", .string "left_click")]),
      .toolUse "a" "computer" (.string "left_click")],
    .user [.toolResult "a" [.png "screen-1"] false,
      .toolResult "a"
        [.text "Error: tool input must be a JSON object", .png "screen-1"] true],
    .assistant
      [.toolUse "b" "computer" (.object [("action", .string "cursor_position")])],
    .user [.toolResult "b" [.text "x:1 y:2 screen:0 window:3"] false],
    .assistant [.text "Found", .other .null, .text "it."]]

theorem rehearsed_ran :
    rehearsedAgent.execute "run" "task" ⟨[], [], 0⟩ rehearsedReplies =
      (.ok rehearsedReport, rehearsed.2) := by
  have reported : rehearsed.1 = .ok rehearsedReport := by
    with_unfolding_all rfl
  exact Prod.ext reported rfl

end DesktopAgent.Agent
