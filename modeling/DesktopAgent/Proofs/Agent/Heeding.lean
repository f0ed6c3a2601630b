import DesktopAgent.Proofs.Agent.Loop
import DesktopAgent.Proofs.Agent.Until

/-!
What a run does about being told to stop.

On its own, a run asks nothing once the moment has come, and it only ends cancelled when it was
told. Next to the run that is never told it does the same until the first check that comes after the
moment, and there it ends.
-/

namespace DesktopAgent.Agent

variable {σ μ : Type}

/-- What a part of a run does about being told to stop, when the trace that it starts from is given:
nothing is asked once the moment has come, and a run that ends cancelled was told. -/
structure Heeds
    (agent : Agent σ μ) (start : Trace) (result : Except Failure Report) (done : Trace) :
    Prop where
  untold : ∀ earlier request later, done = earlier ++ .request request :: later →
    agent.cancellation.isDue (start ++ earlier) = false
  told : ∀ report, result = .ok report → report.completion = .cancelled →
    agent.cancellation.isDue (start ++ done) = true

namespace Heeds

variable {agent : Agent σ μ} {start done : Trace} {result : Except Failure Report}

/-- A part without requests before the rest. -/
theorem after_quiet
    {quiet : Trace} (noRequests : quiet.requests = [])
    (heeds : Heeds agent (start ++ quiet) result done) :
    Heeds agent start result (quiet ++ done) where
  untold := by
    intro earlier request later split
    obtain ⟨between, rfl, rest⟩ := Trace.split_after_quiet noRequests split
    rw [← List.append_assoc]
    exact heeds.untold between request later rest
  told := by
    rw [← List.append_assoc]
    exact heeds.told

/-- A request before the rest, made when the moment had not come. -/
theorem after_request
    {request : Request} (notDue : agent.cancellation.isDue start = false)
    (heeds : Heeds agent (start ++ [.request request]) result done) :
    Heeds agent start result (.request request :: done) where
  untold := by
    intro earlier other later split
    cases earlier with
    | nil =>
        rw [List.append_nil]
        exact notDue
    | cons entry earlier =>
        obtain ⟨rfl, rest⟩ := List.cons.inj split
        rw [List.append_cons]
        exact heeds.untold earlier other later rest
  told := by
    rw [List.append_cons]
    exact heeds.told

theorem of_quiet
    (noRequests : done.requests = [])
    (uncancelled : ∀ report, result = .ok report → report.completion ≠ .cancelled) :
    Heeds agent start result done where
  untold := by
    intro earlier request later split
    rw [split, Trace.requests_append, Trace.requests_cons_request] at noRequests
    exact absurd noRequests (by simp)
  told := by
    intro report given stopped
    exact absurd stopped (uncancelled report given)

end Heeds

/-- By induction on the rounds that are left: the check stands before the request of each. -/
theorem rounds_heeds
    (agent : Agent σ μ) (runId : String) (budget : Nat) (asked : UInt64)
    (history : List Turn) (progress : Progress σ μ) :
    Meets (agent.rounds runId budget asked history) progress fun result done _ =>
      Heeds agent progress.trace result done := by
  induction budget generalizing asked history progress with
  | zero =>
      apply Meets.pure
      apply Heeds.of_quiet rfl
      intro report given
      cases given
      exact nofun
  | succ budget inductionHypothesis =>
      unfold Meets
      rw [run_rounds_succ]
      by_cases due : agent.cancellation.isDue progress.trace = true
      · rw [if_pos due]
        refine ⟨[], (List.append_nil progress.trace).symm, ?_, ?_⟩
        · intro earlier request later split
          exact absurd split (by simp)
        · intro report _ _
          rw [List.append_nil]
          exact due
      · rw [if_neg due]
        have notDue : agent.cancellation.isDue progress.trace = false :=
          eq_false_of_ne_true due
        obtain ⟨done, traced, quiet, rfl, noRequests⟩ :=
          agent.round_meets history progress
        rcases ran : (agent.round history).run progress with
          ⟨failure | (reply | ⟨reply, results⟩), after⟩
        · rw [ran] at traced
          refine ⟨_, traced, .after_request notDue (.of_quiet noRequests ?_)⟩
          intro report given
          cases given
        · rw [ran] at traced
          refine ⟨_, traced, .after_request notDue (.of_quiet noRequests ?_)⟩
          intro report given
          cases given
          exact nofun
        · rw [ran] at traced
          obtain ⟨later, tracedLater, heeds⟩ :=
            inductionHypothesis (asked + 1) (history ++ [reply, results]) after
          refine ⟨.request (agent.requestFor history) :: (quiet ++ later), ?_,
            .after_request notDue (.after_quiet noRequests ?_)⟩
          · rw [tracedLater, traced, List.append_assoc]
            rfl
          · rw [List.append_assoc, List.singleton_append, ← traced]
            exact heeds

/-- The same agent, never told to stop. -/
def unstopped (agent : Agent σ μ) : Agent σ μ := { agent with cancellation := .never }

/-- What telling a run makes of it, next to the run that is not told: the same run, or one that ends
where the other makes a request and the moment has come. -/
inductive CutOff (agent : Agent σ μ) :
    Except Failure Report × Progress σ μ → Except Failure Report × Progress σ μ → Prop
  | whole (outcome : Except Failure Report × Progress σ μ) :
      CutOff agent outcome outcome
  | cut {report : Report} {result : Except Failure Report}
      {start final : Progress σ μ} {request : Request} {later : Trace} :
      report.completion = .cancelled →
      agent.cancellation.isDue start.trace = true →
      final.trace = start.trace ++ .request request :: later →
      CutOff agent (.ok report, start) (result, final)

/-- With budget left, a run that is not told goes on with a request. -/
theorem unstopped_asks
    (agent : Agent σ μ) (runId : String) (budget : Nat) (asked : UInt64)
    (history : List Turn) (progress : Progress σ μ) :
    ∃ later,
      ((agent.unstopped.rounds runId (budget + 1) asked history).run progress).2.trace =
        progress.trace ++ .request (agent.requestFor history) :: later := by
  have notDue : agent.unstopped.cancellation.isDue progress.trace ≠ true := nofun
  rw [run_rounds_succ, if_neg notDue]
  obtain ⟨done, traced, quiet, rfl, _⟩ := agent.unstopped.round_meets history progress
  rcases ran : (agent.unstopped.round history).run progress with
    ⟨failure | (reply | ⟨reply, results⟩), after⟩
  · rw [ran] at traced
    exact ⟨quiet, traced⟩
  · rw [ran] at traced
    exact ⟨quiet, traced⟩
  · rw [ran] at traced
    obtain ⟨rest, grown⟩ :=
      agent.unstopped.rounds_trace runId budget (asked + 1)
        (history ++ [reply, results]) after
    refine ⟨quiet ++ rest, ?_⟩
    dsimp only
    rw [← grown, traced, List.append_assoc]
    rfl

theorem rounds_cutOff
    (agent : Agent σ μ) (runId : String) (budget : Nat) (asked : UInt64)
    (history : List Turn) (progress : Progress σ μ) :
    CutOff agent ((agent.rounds runId budget asked history).run progress)
      ((agent.unstopped.rounds runId budget asked history).run progress) := by
  induction budget generalizing asked history progress with
  | zero => exact .whole _
  | succ budget inductionHypothesis =>
      by_cases due : agent.cancellation.isDue progress.trace = true
      · -- The run ends here; the one that is not told has budget left and asks.
        obtain ⟨later, goesOn⟩ :=
          agent.unstopped_asks runId budget asked history progress
        rw [run_rounds_succ agent, if_pos due]
        exact .cut rfl due goesOn
      · have notDue : agent.unstopped.cancellation.isDue progress.trace ≠ true := nofun
        have computers : agent.unstopped.computer = agent.computer := rfl
        have sameRound : agent.unstopped.round history = agent.round history :=
          round_congr computers rfl rfl history
        rw [run_rounds_succ agent, run_rounds_succ agent.unstopped, if_neg due,
          if_neg notDue, sameRound]
        rcases (agent.round history).run progress with
          ⟨failure | (reply | ⟨reply, results⟩), after⟩
        · exact .whole _
        · exact .whole _
        · exact inductionHypothesis _ _ after

end DesktopAgent.Agent
