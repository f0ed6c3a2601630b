import DesktopAgent.Proofs.Agent.Extension
import DesktopAgent.Proofs.Agent.Heeding

/-!
Telling a run to stop cuts it off between two rounds and changes nothing before.

The moment is placed by the trace of the run that is never told: what the loop finds at the check of
a round is decided by what was done until then, which is the same in both runs. So the run ends at
the first check that comes after the moment, when the turn in flight is completed.
-/

namespace DesktopAgent.Agent

variable {σ μ : Type}

/-- The last request of a trace, the reply to it and what was done about it until the end of the
trace: every use of the tool was carried out and answered, and the results end the history. -/
inductive TurnCompleted
    (agent : Agent σ μ) (model : μ) (trace : Trace) (history : List Turn) : Prop
  | intro (earlier : Trace) {round : Trace} {request : Request} {reply : Turn}
      {results : List Block} :
      trace = earlier ++ .request request :: round →
      (agent.model.replies trace.requests model).getLast? = some (.ok reply) →
      reply.hasToolUse = true →
      Answered reply.content results round →
      history = request.messages ++ [.assistant reply.content, .user results] →
      TurnCompleted agent model trace history

/-- A run that ends without an answer ends when the turn in flight is completed. -/
theorem Course.turnCompleted
    {agent : Agent σ μ} {runId : String} {budget : Nat} {asked : UInt64}
    {history : List Turn} {model : μ} {result : Except Failure Report} {done : Trace}
    (course : Course agent runId budget asked history model result done)
    (asks : done.requests ≠ []) :
    ∀ report, result = .ok report →
      (∀ text, report.completion ≠ .answered text) →
        TurnCompleted agent model done report.history := by
  induction course with
  | exhausted => exact absurd rfl asks
  | cancelled => exact absurd rfl asks
  | unheard _ =>
      intro report given
      cases given
  | answered _ _ =>
      intro report given unanswered
      cases given
      exact absurd rfl (unanswered _)
  | interrupted _ _ _ =>
      intro report given
      cases given
  | @continued _ _ history model reply results done later _ heard acts answered course
      inductionHypothesis =>
      intro report given unanswered
      have requests := Trace.requests_of_round answered.quiet
        (agent.requestFor history) later
      -- Either this round is the last that asks, and so the turn in flight, or a later one is.
      by_cases last : later.requests = []
      · have replied :
            (agent.model.replies
              (Trace.requests (.request (agent.requestFor history) :: (done ++ later)))
              model).getLast? = some (.ok reply) := by
          rw [requests, last]
          exact congrArg some heard
        have ended : later = [] ∧
            report.history = history ++ [.assistant reply.content, .user results] := by
          cases course with
          | exhausted =>
              cases given
              exact ⟨rfl, rfl⟩
          | cancelled =>
              cases given
              exact ⟨rfl, rfl⟩
          | unheard _ => cases last
          | answered _ _ => cases last
          | interrupted _ _ _ => cases last
          | continued _ _ _ _ => cases last
        obtain ⟨rfl, history_eq⟩ := ended
        rw [List.append_nil] at replied ⊢
        exact .intro [] rfl replied acts answered history_eq
      · obtain ⟨earlier, rfl, replied, lastActs, lastAnswered, grown⟩ :=
          inductionHypothesis last report given unanswered
        refine .intro (.request (agent.requestFor history) :: (done ++ earlier)) ?_ ?_
          lastActs lastAnswered grown
        · rw [List.cons_append, List.append_assoc]
        · rw [replyTo] at replied
          rw [requests, Model.replies, List.getLast?_cons, replied]
          rfl

/-- The moment comes after the check of every round before the one of an index, and before the check
of that round. What is done before the request of a round is done when it is checked. -/
structure MomentBefore
    (cancellation : Cancellation) (index : Nat) (trace : Trace) : Prop where
  due : cancellation.isDue (trace.before index) = true
  notYet : ∀ earlier, earlier + 1 = index →
    cancellation.isDue (trace.before earlier) = false

namespace MomentBefore

variable {agent : Agent σ μ} {index : Nat} {trace : Trace}

/-- Of a trace that ends before the round of an index, no later part is left. -/
theorem le_requests (moment : MomentBefore agent.cancellation index trace) :
    index ≤ trace.requests.length := by
  rcases Nat.lt_or_ge trace.requests.length index with beyond | le
  · obtain ⟨earlier, rfl⟩ : ∃ earlier, index = earlier + 1 :=
      Nat.exists_eq_succ_of_ne_zero (by omega)
    have due := moment.due
    have notYet := moment.notYet earlier rfl
    rw [Trace.before_of_le (by omega)] at due notYet
    rw [due] at notYet
    cases notYet
  · exact le

/-- Where a run was cut off, the moment came before the round that it does not have. -/
theorem eq_of_cut
    {start : Trace} {request : Request} {later : Trace} {result : Except Failure Report}
    (moment : MomentBefore agent.cancellation index trace)
    (heeds : Heeds agent [] result start)
    (due : agent.cancellation.isDue start = true)
    (split : trace = start ++ .request request :: later) :
    index = start.requests.length := by
  have cut : trace.before start.requests.length = start := by
    rw [split]
    exact Trace.before_of_split start request later
  rcases Nat.lt_trichotomy index start.requests.length with below | same | above
  · -- The run would have made a request after a check at which it was told.
    obtain ⟨length, next, rest, inner⟩ := Trace.exists_request_of_lt below
    have notDue := heeds.untold _ next rest inner
    have sameBefore : trace.before index = start.before index := by
      have whole :
          trace = start.before index ++ .request next ::
            (rest ++ .request request :: later) := by
        rw [split, ← List.cons_append, ← List.append_assoc, ← inner]
      have found := Trace.before_of_split (start.before index) next
        (rest ++ .request request :: later)
      rw [length, ← whole] at found
      exact found
    rw [List.nil_append, ← sameBefore, moment.due] at notDue
    cases notDue
  · exact same
  · -- The check before the moment would have found it come.
    obtain ⟨earlier, rfl⟩ : ∃ earlier, index = earlier + 1 :=
      Nat.exists_eq_succ_of_ne_zero (by omega)
    have notYet := moment.notYet earlier rfl
    have dueThen : agent.cancellation.isDue (trace.before earlier) = true := by
      apply Cancellation.isDue_of_prefix due
      rw [← cut]
      exact Trace.before_prefix_before (by omega) trace
    rw [dueThen] at notYet
    cases notYet

end MomentBefore

/-- A run that is not told has no round of an index: the budget ends there, the round before gave
the answer, or a call failed before it. -/
inductive OverBefore
    (budget : UInt64) (index : Nat) (result : Except Failure Report) (trace : Trace) : Prop
  | exhausted : index = budget.toNat → OverBefore budget index result trace
  | answered {report : Report} {text : String} :
      result = .ok report → report.completion = .answered text →
      report.iterations.toNat = index → OverBefore budget index result trace
  | failed {failure : Failure} :
      result = .error failure → trace.requests.length = index →
      OverBefore budget index result trace

theorem execute_heeds
    (agent : Agent σ μ) (runId task : String) (computer : σ) (model : μ) :
    Heeds agent [] (agent.execute runId task computer model).1
      (agent.execute runId task computer model).2.trace := by
  obtain ⟨done, traced, _, shown, _⟩ :=
    agent.takeScreenshot_meets ⟨[], computer, model⟩
  rw [execute_eq]
  rcases ran : agent.takeScreenshot.run ⟨[], computer, model⟩ with
    ⟨failure | base64, after⟩
  · rw [ran] at traced shown
    obtain rfl : done = [.screenshot] := shown
    change Heeds agent [] (.error failure) after.trace
    rw [traced]
    exact .of_quiet rfl nofun
  · rw [ran] at traced shown
    obtain rfl : done = [.screenshot, .event (.screenshot base64)] := shown
    obtain ⟨later, tracedLater, heeds⟩ := agent.rounds_heeds runId
      agent.config.maxIterations.toNat 0 [seed task base64] after
    dsimp only
    rw [tracedLater, traced, List.nil_append]
    rw [traced] at heeds
    exact .after_quiet rfl heeds

theorem execute_cutOff
    (agent : Agent σ μ) (runId task : String) (computer : σ) (model : μ) :
    CutOff agent (agent.execute runId task computer model)
      (agent.unstopped.execute runId task computer model) := by
  have picture : agent.unstopped.takeScreenshot = agent.takeScreenshot := rfl
  rw [execute_eq, execute_eq, picture]
  rcases agent.takeScreenshot.run ⟨[], computer, model⟩ with
    ⟨failure | base64, after⟩
  · exact .whole _
  · exact agent.rounds_cutOff runId _ 0 _ after

variable {agent : Agent σ μ} {runId otherId task : String}
variable {computer : σ} {model : μ}
variable {result wholeResult : Except Failure Report} {final whole : Progress σ μ}

theorem Execution.turnCompleted
    {done : Trace}
    (execution : Execution agent runId task computer model result done)
    (asks : done.requests ≠ []) :
    ∀ report, result = .ok report →
      (∀ text, report.completion ≠ .answered text) →
        TurnCompleted agent model done report.history := by
  intro report given unanswered
  cases execution with
  | blind _ => cases given
  | @sighted base64 _ later _ course =>
      obtain ⟨earlier, rfl, replied, acts, answered, grown⟩ :=
        course.turnCompleted asks report given unanswered
      exact .intro (.screenshot :: .event (.screenshot base64) :: earlier) rfl
        replied acts answered grown

/-- A run that is not told has exactly the rounds in which it makes a request. -/
theorem overBefore_iff
    (untold : agent.unstopped.execute runId task computer model = (result, final))
    {index : Nat} (le : index ≤ final.trace.requests.length) :
    OverBefore agent.config.maxIterations index result final.trace ↔
      index = final.trace.requests.length := by
  have execution := execution_of_execute _ runId untold
  have within := execution.within_budget
  constructor
  · intro isOver
    cases isOver with
    | exhausted atEnd =>
        rw [atEnd] at le ⊢
        exact Nat.le_antisymm le within
    | answered given _ counted =>
        rw [← counted]
        exact (execution.settled _ given).iterations_eq
    | failed _ counted => exact counted.symm
  · rintro rfl
    cases result with
    | error failure => exact .failed rfl rfl
    | ok report =>
        have settled := execution.settled report rfl
        cases completion : report.completion with
        | answered text => exact .answered rfl completion settled.iterations_eq
        | budgetExhausted =>
            obtain ⟨all, _⟩ := settled.exhausted completion
            apply OverBefore.exhausted
            rw [← settled.iterations_eq, all]
            rfl
        | cancelled =>
            have heeds := agent.unstopped.execute_heeds runId task computer model
            rw [untold] at heeds
            have due := heeds.told report rfl completion
            cases due

/-- Telling a run to stop leaves a beginning of the run that is not told, and the whole run when the
moment never comes. When it comes before the check of a round, and after the earlier checks, the run
makes no request from that round on and ends cancelled with the turn in flight completed; it is the
run that is not told where that run has no such round. -/
theorem cancellation_cuts_of_execute
    (told : agent.execute runId task computer model = (result, final))
    (untold : agent.unstopped.execute otherId task computer model =
      (wholeResult, whole)) :
    final.trace <+: whole.trace ∧
    (agent.cancellation.isDue whole.trace = false →
      final.trace = whole.trace ∧
        result = wholeResult.map fun report => { report with runId := runId }) ∧
    ∀ index, MomentBefore agent.cancellation index whole.trace →
      (OverBefore agent.config.maxIterations index wholeResult whole.trace →
        final.trace = whole.trace ∧
          result = wholeResult.map fun report => { report with runId := runId }) ∧
      (¬ OverBefore agent.config.maxIterations index wholeResult whole.trace →
        final.trace = whole.trace.before index ∧
        final.trace.requests.length = index ∧
        ∃ report, result = .ok report ∧ report.completion = .cancelled ∧
          report.iterations.toNat = index ∧
          (0 < index → TurnCompleted agent model final.trace report.history)) := by
  have cutOff := agent.execute_cutOff runId task computer model
  rw [agent.unstopped.execute_relabelled otherId, untold, told] at cutOff
  have heeds := agent.execute_heeds runId task computer model
  rw [told] at heeds
  dsimp only at heeds
  have execution := execution_of_execute agent runId told
  cases cutOff with
  | whole =>
      refine ⟨List.prefix_refl _, fun _ => ⟨rfl, rfl⟩, ?_⟩
      intro index moment
      refine ⟨fun _ => ⟨rfl, rfl⟩, ?_⟩
      intro notOver
      rw [overBefore_iff untold moment.le_requests] at notOver
      have hasRound : index < whole.trace.requests.length :=
        Nat.lt_of_le_of_ne moment.le_requests notOver
      obtain ⟨_, request, later, split⟩ := Trace.exists_request_of_lt hasRound
      have notDue := heeds.untold _ request later split
      rw [List.nil_append, moment.due] at notDue
      cases notDue
  | @cut report _ _ _ request later stopped due split =>
      dsimp only at due split
      have begins : final.trace <+: whole.trace := ⟨_, split.symm⟩
      refine ⟨begins, ?_, ?_⟩
      · intro neverDue
        rw [Cancellation.isDue_of_prefix due begins] at neverDue
        cases neverDue
      · intro index moment
        obtain rfl := moment.eq_of_cut heeds due split
        have hasRound : final.trace.requests.length < whole.trace.requests.length := by
          rw [split, Trace.requests_append, Trace.requests_cons_request,
            List.length_append, List.length_cons]
          omega
        constructor
        · intro isOver
          rw [overBefore_iff untold moment.le_requests] at isOver
          omega
        · intro _
          refine ⟨?_, rfl, report, rfl, stopped,
            (execution.settled report rfl).iterations_eq, ?_⟩
          · rw [split]
            exact (Trace.before_of_split final.trace request later).symm
          · intro some
            apply execution.turnCompleted (List.ne_nil_of_length_pos some) report rfl
            rw [stopped]
            exact nofun

/-- The rehearsal told to stop while the request of an index is answered. -/
def interruptedAgent (index : Nat) : Agent Rehearsal.Screens Rehearsal.Replies :=
  { rehearsedAgent with cancellation := .onRequest index }

def interrupted (index : Nat) :
    Except Failure Report × Progress Rehearsal.Screens Rehearsal.Replies :=
  (interruptedAgent index).execute "interrupted" "task" ⟨[], [], 0⟩ rehearsedReplies

/-- Told during the second of its three requests the rehearsal makes no third one, and the cursor is
still found; told during the third it answers all the same. -/
theorem cancellation_cuts_of_rehearsed :
    MomentBefore (.onRequest 1) 2 rehearsed.2.trace ∧
    (interrupted 1).2.trace = rehearsed.2.trace.before 2 ∧
    (∃ report, (interrupted 1).1 = .ok report ∧ report.completion = .cancelled ∧
      report.iterations.toNat = 2 ∧
      TurnCompleted (interruptedAgent 1) rehearsedReplies (interrupted 1).2.trace
        report.history) ∧
    MomentBefore (.onRequest 2) 3 rehearsed.2.trace ∧
    (interrupted 2).2.trace = rehearsed.2.trace ∧
    (interrupted 2).1 = .ok { rehearsedReport with runId := "interrupted" } := by
  have told (index : Nat) :
      interrupted index = ((interrupted index).1, (interrupted index).2) :=
    Prod.ext rfl rfl
  have moment : MomentBefore (interruptedAgent 1).cancellation 2 rehearsed.2.trace := by
    refine ⟨by decide +kernel, ?_⟩
    rintro earlier ⟨⟩
    decide +kernel
  have lastMoment :
      MomentBefore (interruptedAgent 2).cancellation 3 rehearsed.2.trace := by
    refine ⟨by decide +kernel, ?_⟩
    rintro earlier ⟨⟩
    decide +kernel
  have notOver : ¬ OverBefore 3 2 (.ok rehearsedReport) rehearsed.2.trace := by
    intro isOver
    cases isOver with
    | exhausted atEnd => cases atEnd
    | answered given _ counted =>
        cases given
        cases counted
    | failed given _ => cases given
  obtain ⟨_, _, cuts⟩ := cancellation_cuts_of_execute (told 1) rehearsed_ran
  obtain ⟨before, _, report, given, stopped, counted, completed⟩ :=
    (cuts 2 moment).2 notOver
  obtain ⟨_, _, leaves⟩ := cancellation_cuts_of_execute (told 2) rehearsed_ran
  obtain ⟨sameTrace, sameResult⟩ := (leaves 3 lastMoment).1 (.exhausted rfl)
  exact ⟨moment, before,
    ⟨report, given, stopped, counted, completed (by decide)⟩,
    lastMoment, sameTrace, sameResult⟩

end DesktopAgent.Agent
