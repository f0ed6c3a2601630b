import DesktopAgent.Proofs.Agent.Outcome

/-!
The loop of a run, one round at a time.

A round asks the model and answers what it replies. The budget and the moment at which the run is
told to stop have no part in it: they only decide whether another round is made. So two runs that
differ in them alone go through the same rounds, and are compared by one equation for the loop.
-/

namespace DesktopAgent.Agent

variable {σ μ α : Type}

/-- How a round ends in which nothing fails. -/
inductive RoundEnd where
  | answered (reply : Turn)
  | acted (reply results : Turn)

/-- One round of a run: a question to the model, and what is done about the reply. -/
def round (agent : Agent σ μ) (history : List Turn) : Stretch σ μ RoundEnd := do
  let reply ← agent.ask history
  if reply.hasToolUse then
    let results ← agent.act reply.content
    return .acted reply (.user results)
  else
    tellAnswer reply
    return .answered reply

/-- A round begins with its request, and asks nothing else. -/
theorem round_meets
    (agent : Agent σ μ) (history : List Turn) (progress : Progress σ μ) :
    Meets (agent.round history) progress fun _ done _ =>
      ∃ quiet, done = .request (agent.requestFor history) :: quiet ∧
        Trace.requests quiet = [] := by
  unfold round
  apply Meets.bind (agent.ask_meets history progress)
  · intro reply done middle met
    obtain ⟨rfl, _⟩ := met
    split
    · apply Meets.bind (agent.act_meets reply.content middle)
      · intro results done after met
        obtain ⟨_, quiet, _⟩ := met
        apply Meets.pure
        rw [List.append_nil]
        exact ⟨done, rfl, quiet⟩
      · intro failure done after met
        obtain ⟨_, quiet, _⟩ := met
        exact ⟨done, rfl, quiet⟩
    · apply Meets.bind (tellAnswer_meets reply middle)
      · intro value done after met
        obtain ⟨_, rfl, _⟩ := met
        apply Meets.pure
        rw [List.append_nil]
        exact ⟨answerTold reply, rfl, answerTold_quiet reply⟩
      · intro failure done after met
        obtain ⟨impossible, _⟩ := met
        cases impossible
  · intro failure done after met
    obtain ⟨rfl, _⟩ := met
    exact ⟨[], rfl, rfl⟩

theorem run_isCancelled (agent : Agent σ μ) (progress : Progress σ μ) :
    agent.isCancelled.run progress =
      (.ok (agent.cancellation.isDue progress.trace), progress) :=
  rfl

theorem run_rounds_zero
    (agent : Agent σ μ) (runId : String) (asked : UInt64)
    (history : List Turn) (progress : Progress σ μ) :
    (agent.rounds runId 0 asked history).run progress =
      (.ok ⟨runId, .budgetExhausted, asked, history⟩, progress) :=
  rfl

/-- What the loop does with a round of its budget. -/
theorem run_rounds_succ
    (agent : Agent σ μ) (runId : String) (budget : Nat) (asked : UInt64)
    (history : List Turn) (progress : Progress σ μ) :
    (agent.rounds runId (budget + 1) asked history).run progress =
      if agent.cancellation.isDue progress.trace then
        (.ok ⟨runId, .cancelled, asked, history⟩, progress)
      else
        match (agent.round history).run progress with
        | (.error failure, after) => (.error failure, after)
        | (.ok (.answered reply), after) =>
            (.ok ⟨runId, .answered reply.text, asked + 1, history ++ [reply]⟩, after)
        | (.ok (.acted reply results), after) =>
            (agent.rounds runId budget (asked + 1)
              (history ++ [reply, results])).run after := by
  rw [rounds, round, run_bind, run_isCancelled]
  dsimp only
  by_cases due : agent.cancellation.isDue progress.trace = true
  · rw [if_pos due, if_pos due]
    rfl
  · rw [if_neg due, if_neg due, run_bind, run_bind]
    rcases (agent.ask history).run progress with ⟨failure | reply, middle⟩
    · rfl
    · dsimp only
      by_cases acts : reply.hasToolUse = true
      · rw [if_pos acts, if_pos acts, run_bind, run_bind]
        rcases (agent.act reply.content).run middle with ⟨failure | results, after⟩
        · rfl
        · rfl
      · rw [if_neg acts, if_neg acts, run_bind, run_bind]
        rcases (tellAnswer reply).run middle with ⟨failure | value, after⟩
        · rfl
        · rfl

/-- A whole run: the first picture, and the rounds of the budget. -/
theorem execute_eq
    (agent : Agent σ μ) (runId task : String) (computer : σ) (model : μ) :
    agent.execute runId task computer model =
      match agent.takeScreenshot.run ⟨[], computer, model⟩ with
      | (.ok base64, after) =>
          (agent.rounds runId agent.config.maxIterations.toNat 0
            [seed task base64]).run after
      | (.error failure, after) => (.error failure, after) := by
  rw [execute, run, run_bind]
  rcases agent.takeScreenshot.run ⟨[], computer, model⟩ with ⟨failure | base64, after⟩
  · rfl
  · rfl

/-- What the rounds add comes after what the trace holds. -/
theorem rounds_trace
    (agent : Agent σ μ) (runId : String) (budget : Nat) (asked : UInt64)
    (history : List Turn) (progress : Progress σ μ) :
    progress.trace <+:
      ((agent.rounds runId budget asked history).run progress).2.trace := by
  obtain ⟨done, traced, _⟩ := agent.rounds_meets runId budget asked history progress
  exact ⟨done, traced.symm⟩

section Partners

variable {first second : Agent σ μ}

theorem act_congr
    (computers : first.computer = second.computer) (blocks : List Block) :
    (first.act blocks : Stretch σ μ (List Block)) = second.act blocks := by
  have sameUse (id : String) (input : Json) :
      first.runTool id input = second.runTool id input := by
    unfold runTool takeScreenshot perform
    rw [computers]
  induction blocks with
  | nil => rfl
  | cons block blocks inductionHypothesis =>
      cases block with
      | text words =>
          simp only [act, inductionHypothesis]
      | toolUse id name input =>
          simp only [act, sameUse, inductionHypothesis]
      | image source =>
          simp only [act, inductionHypothesis]
      | toolResult id content isError =>
          simp only [act, inductionHypothesis]
      | other raw =>
          simp only [act, inductionHypothesis]

/-- What a round does is a matter of the partners and of the requests alone. -/
theorem round_congr
    (computers : first.computer = second.computer)
    (models : first.model = second.model)
    (requests : first.requestFor = second.requestFor) (history : List Turn) :
    (first.round history : Stretch σ μ RoundEnd) = second.round history := by
  have sameQuestion : first.ask history = second.ask history := by
    unfold ask
    rw [models, requests]
  unfold round
  rw [sameQuestion]
  simp only [act_congr computers]

/-- The budget of the settings has no part in the rounds. -/
theorem run_rounds_congr
    (computers : first.computer = second.computer)
    (models : first.model = second.model)
    (requests : first.requestFor = second.requestFor)
    (cancellations : first.cancellation = second.cancellation)
    (runId : String) (budget : Nat) (asked : UInt64) (history : List Turn)
    (progress : Progress σ μ) :
    (first.rounds runId budget asked history).run progress =
      (second.rounds runId budget asked history).run progress := by
  induction budget generalizing asked history progress with
  | zero => rfl
  | succ budget inductionHypothesis =>
      rw [run_rounds_succ, run_rounds_succ, cancellations,
        round_congr computers models requests]
      simp only [inductionHypothesis]

end Partners

/-- The report under another run id. -/
def relabelled (runId : String) (report : Report) : Report :=
  { report with runId := runId }

theorem run_rounds_relabelled
    (agent : Agent σ μ) (runId otherId : String) (budget : Nat) (asked : UInt64)
    (history : List Turn) (progress : Progress σ μ) :
    (agent.rounds otherId budget asked history).run progress =
      (((agent.rounds runId budget asked history).run progress).1.map
          (relabelled otherId),
        ((agent.rounds runId budget asked history).run progress).2) := by
  induction budget generalizing asked history progress with
  | zero => rfl
  | succ budget inductionHypothesis =>
      rw [run_rounds_succ, run_rounds_succ]
      by_cases due : agent.cancellation.isDue progress.trace = true
      · rw [if_pos due, if_pos due]
        rfl
      · rw [if_neg due, if_neg due]
        rcases (agent.round history).run progress with
          ⟨failure | (reply | ⟨reply, results⟩), after⟩
        · rfl
        · rfl
        · exact inductionHypothesis _ _ after

/-- The run id is a label: it stands in the report and changes nothing else. -/
theorem execute_relabelled
    (agent : Agent σ μ) (runId otherId task : String) (computer : σ) (model : μ) :
    agent.execute otherId task computer model =
      ((agent.execute runId task computer model).1.map (relabelled otherId),
        (agent.execute runId task computer model).2) := by
  rw [execute_eq, execute_eq]
  rcases agent.takeScreenshot.run ⟨[], computer, model⟩ with
    ⟨failure | base64, after⟩
  · rfl
  · exact agent.run_rounds_relabelled runId otherId _ _ _ after

end DesktopAgent.Agent
