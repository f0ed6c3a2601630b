import DesktopAgent.Proofs.Agent.Extension
import DesktopAgent.Proofs.Agent.Loop

/-!
A larger budget makes a run longer and changes nothing else.

Two loops with different budgets go through the same rounds until the smaller budget is used up or
the run has ended. The comparison is an induction on the smaller budget, one round of both loops at
a time.
-/

namespace DesktopAgent.Agent

variable {σ μ : Type}

/-- The same agent with another budget. -/
def withBudget (agent : Agent σ μ) (budget : UInt64) : Agent σ μ :=
  { agent with config := { agent.config with maxIterations := budget } }

/-- What a larger budget makes of a run: the same run, or one that goes on from where the smaller
budget was used up. -/
inductive Lengthened :
    Except Failure Report × Progress σ μ → Except Failure Report × Progress σ μ → Prop
  | same (outcome : Except Failure Report × Progress σ μ) :
      Lengthened outcome outcome
  | further {report : Report} {result : Except Failure Report}
      {start final : Progress σ μ} :
      report.completion = .budgetExhausted →
      start.trace <+: final.trace →
      (∀ longer, result = .ok longer → report.history <+: longer.history) →
      Lengthened (.ok report, start) (result, final)

/-- Whatever the budget, the history of a report begins with the conversation so far. -/
theorem history_prefix_of_rounds
    (agent : Agent σ μ) (runId : String) (budget : Nat) (asked : UInt64)
    (history : List Turn) (progress : Progress σ μ) {report : Report}
    (given :
      ((agent.rounds runId budget asked history).run progress).1 = .ok report) :
    history <+: report.history := by
  obtain ⟨done, _, course⟩ := agent.rounds_meets runId budget asked history progress
  rw [given] at course
  apply course.growth.history_prefix
  exact List.mem_append_right _ (List.mem_singleton_self report.history)

/-- By induction on the smaller budget. Where it is used up, the larger one goes on from the same
conversation. -/
theorem rounds_lengthened
    (agent : Agent σ μ) (runId : String) {few many : Nat} (le : few ≤ many)
    (asked : UInt64) (history : List Turn) (progress : Progress σ μ) :
    Lengthened ((agent.rounds runId few asked history).run progress)
      ((agent.rounds runId many asked history).run progress) := by
  induction few generalizing many asked history progress with
  | zero =>
      rw [run_rounds_zero]
      apply Lengthened.further rfl
      · exact agent.rounds_trace runId many asked history progress
      · intro longer given
        exact agent.history_prefix_of_rounds runId many asked history progress given
  | succ few inductionHypothesis =>
      obtain ⟨more, rfl⟩ : ∃ more, many = more + 1 :=
        Nat.exists_eq_succ_of_ne_zero (by omega)
      have fewer : few ≤ more := Nat.le_of_succ_le_succ le
      rw [run_rounds_succ, run_rounds_succ]
      by_cases due : agent.cancellation.isDue progress.trace = true
      · rw [if_pos due, if_pos due]
        exact .same _
      · rw [if_neg due, if_neg due]
        rcases (agent.round history).run progress with
          ⟨failure | (reply | ⟨reply, results⟩), after⟩
        · exact .same _
        · exact .same _
        · exact inductionHypothesis fewer _ _ after

/-- The first picture is taken in the same way within any budget. -/
theorem execute_lengthened
    (agent : Agent σ μ) (runId task : String) (computer : σ) (model : μ)
    {few many : UInt64} (le : few ≤ many) :
    Lengthened ((agent.withBudget few).execute runId task computer model)
      ((agent.withBudget many).execute runId task computer model) := by
  have rest (budget : UInt64) (base64 : String) (after : Progress σ μ) :
      ((agent.withBudget budget).rounds runId
          (agent.withBudget budget).config.maxIterations.toNat 0
          [seed task base64]).run after =
        (agent.rounds runId budget.toNat 0 [seed task base64]).run after := by
    have computers : (agent.withBudget budget).computer = agent.computer := rfl
    exact run_rounds_congr computers rfl rfl rfl runId _ 0 _ after
  have picture (budget : UInt64) :
      (agent.withBudget budget).takeScreenshot = agent.takeScreenshot :=
    rfl
  rw [execute_eq, execute_eq, picture, picture]
  rcases agent.takeScreenshot.run ⟨[], computer, model⟩ with
    ⟨failure | base64, after⟩
  · exact .same _
  · dsimp only
    rw [rest, rest]
    exact agent.rounds_lengthened runId (UInt64.le_iff_toNat_le.mp le) _ _ after

variable {agent : Agent σ μ} {runId otherId task : String}
variable {computer : σ} {model : μ}
variable {result longResult : Except Failure Report} {final longFinal : Progress σ μ}

/-- A run that does not use up its budget is the same run within a larger one. A run that uses it
up is the beginning of every run with a larger budget, and so is its history of all rounds. -/
theorem budget_extends_of_execute
    {few many : UInt64} (le : few ≤ many)
    (short :
      (agent.withBudget few).execute runId task computer model = (result, final))
    (long :
      (agent.withBudget many).execute otherId task computer model =
        (longResult, longFinal)) :
    ((∀ report, result = .ok report → report.completion ≠ .budgetExhausted) →
      longFinal.trace = final.trace ∧
        longResult = result.map fun report => { report with runId := otherId }) ∧
    (∀ report, result = .ok report → report.completion = .budgetExhausted →
      final.trace <+: longFinal.trace ∧
      report.history.length = 2 * few.toNat + 1 ∧
      ∀ longReport, longResult = .ok longReport →
        report.history <+: longReport.history) := by
  have lengthened := agent.execute_lengthened runId task computer model le
  rw [execute_relabelled _ runId] at long
  obtain ⟨rfl, rfl⟩ := Prod.mk.inj long
  have settled := (execution_of_execute _ runId short).settled
  rw [short] at lengthened
  generalize (agent.withBudget many).execute runId task computer model =
    whole at lengthened ⊢
  constructor
  · intro unused
    cases lengthened with
    | same => exact ⟨rfl, rfl⟩
    | @further report _ _ _ used _ _ => exact absurd used (unused report rfl)
  · intro report given used
    have length : report.history.length = 2 * few.toNat + 1 := by
      obtain ⟨all, counted, _⟩ := (settled report given).exhausted used
      rw [counted, ← (settled report given).iterations_eq, all]
      rfl
    cases lengthened with
    | same =>
        refine ⟨List.prefix_refl _, length, ?_⟩
        intro longReport longGiven
        rw [given] at longGiven
        cases longGiven
        exact List.prefix_refl _
    | @further _ wholeResult _ _ _ traces histories =>
        cases given
        refine ⟨traces, length, ?_⟩
        intro longReport longGiven
        cases wholeResult with
        | error failure => cases longGiven
        | ok longer =>
            cases longGiven
            exact histories longer rfl

/-- The rehearsal with a budget of one round. -/
def brief : Except Failure Report × Progress Rehearsal.Screens Rehearsal.Replies :=
  (rehearsedAgent.withBudget 1).execute "brief" "task" ⟨[], [], 0⟩ rehearsedReplies

def briefReport : Report where
  runId := "brief"
  completion := .budgetExhausted
  iterations := 1
  history := rehearsedReport.history.take 3

/-- The rehearsal with more budget than it needs. -/
def ample : Except Failure Report × Progress Rehearsal.Screens Rehearsal.Replies :=
  (rehearsedAgent.withBudget 50).execute "ample" "task" ⟨[], [], 0⟩ rehearsedReplies

/-- One round is the beginning of the three that the rehearsal takes; fifty are no more than
three. -/
theorem budget_extends_of_rehearsed :
    brief.1 = .ok briefReport ∧
    brief.2.trace <+: rehearsed.2.trace ∧
    briefReport.history <+: rehearsedReport.history ∧
    ample.2.trace = rehearsed.2.trace ∧
    ample.1 = .ok { rehearsedReport with runId := "ample" } := by
  have reported : brief.1 = .ok briefReport := by
    with_unfolding_all rfl
  have briefRan : brief = (.ok briefReport, brief.2) := Prod.ext reported rfl
  have ampleRan : ample = (ample.1, ample.2) := Prod.ext rfl rfl
  have sameAgent : rehearsedAgent.withBudget 3 = rehearsedAgent := rfl
  have wholeRan :
      (rehearsedAgent.withBudget 3).execute "run" "task" ⟨[], [], 0⟩
        rehearsedReplies = (.ok rehearsedReport, rehearsed.2) := by
    rw [sameAgent]
    exact rehearsed_ran
  obtain ⟨_, usedUp⟩ := budget_extends_of_execute (by decide) briefRan wholeRan
  obtain ⟨traces, _, histories⟩ := usedUp briefReport rfl rfl
  obtain ⟨unused, _⟩ := budget_extends_of_execute (by decide) wholeRan ampleRan
  obtain ⟨sameTrace, sameResult⟩ := unused (by
    intro report given
    cases given
    exact nofun)
  exact ⟨reported, traces, histories rehearsedReport rfl, sameTrace, sameResult⟩

end DesktopAgent.Agent
