import DesktopAgent.Proofs.Agent.Conversation

/-!
The account that a report gives of its run: how often the model was asked, and how the run ended.

Budget and iterations come from the course of the rounds, turns and lengths from the conversation
that they build; the two meet in the number of requests.
-/

namespace DesktopAgent.Agent

/-- Whether a turn is the model's. -/
def isReply (turn : Turn) : Bool := turn.role == .assistant

theorem isReply_of_assistant
    {turn : Turn} (byAssistant : turn.role = .assistant) :
    isReply turn = true := by
  rw [isReply, byAssistant]
  rfl

theorem isReply_of_user
    {turn : Turn} (byUser : turn.role = .user) :
    isReply turn = false := by
  rw [isReply, byUser]
  rfl

/-- The conversation ends with a turn of the role. -/
def EndsWith (role : Role) (history : List Turn) : Prop :=
  ∃ turn, history.getLast? = some turn ∧ turn.role = role

namespace Awaiting

variable {opening : Turn} {rounds : Nat} {history : List Turn}

theorem countP_isReply
    (awaits : Awaiting opening rounds history)
    (byUser : opening.role = .user) :
    history.countP isReply = rounds := by
  induction awaits with
  | opened =>
      rw [List.countP_singleton, isReply_of_user byUser]
      rfl
  | answered _ byAssistant _ answers inductionHypothesis =>
      rw [List.countP_append, inductionHypothesis,
        List.countP_cons_of_pos (isReply_of_assistant byAssistant),
        List.countP_singleton, isReply_of_user answers.byUser]
      rfl

theorem endsWith_user
    (awaits : Awaiting opening rounds history)
    (byUser : opening.role = .user) :
    EndsWith .user history := by
  cases awaits with
  | opened => exact ⟨opening, rfl, byUser⟩
  | @answered _ _ _ results _ _ _ answers =>
      exact ⟨results, by simp, answers.byUser⟩

end Awaiting

namespace Ended

variable {opening : Turn} {rounds : Nat} {completion : Completion}
variable {history : List Turn}

theorem countP_isReply
    (ended : Ended opening rounds completion history)
    (byUser : opening.role = .user) :
    history.countP isReply = rounds := by
  cases ended with
  | awaiting _ awaits => exact awaits.countP_isReply byUser
  | answered awaits byAssistant _ =>
      rw [List.countP_append, awaits.countP_isReply byUser,
        List.countP_singleton, isReply_of_assistant byAssistant]
      rfl

/-- The last turn of an answered conversation is the answer. -/
theorem answer_last
    {text : String}
    (ended : Ended opening rounds (.answered text) history) :
    history.length = 2 * rounds ∧
      ∃ answer, history.getLast? = some answer ∧ answer.role = .assistant ∧
        answer.hasToolUse = false ∧ text = answer.text := by
  cases ended with
  | awaiting unanswered _ => exact absurd rfl (unanswered text)
  | @answered rounds history answer awaits byAssistant final =>
      constructor
      · rw [List.length_append, awaits.length_eq]
        rfl
      · exact ⟨answer, List.getLast?_concat, byAssistant, final, rfl⟩

/-- Without an answer the conversation still awaits the model. -/
theorem awaits_of_unanswered
    (ended : Ended opening rounds completion history)
    (unanswered : ∀ text, completion ≠ .answered text) :
    Awaiting opening rounds history := by
  cases ended with
  | awaiting _ awaits => exact awaits
  | answered _ _ _ => exact absurd rfl (unanswered _)

end Ended

/-- What a report says of rounds within a budget, when so many requests were made in them. -/
structure Accounted
    (budget : Nat) (asked : UInt64) (requests : Nat) (report : Report) :
    Prop where
  iterations : report.iterations = asked + UInt64.ofNat requests
  cancelled : report.completion = .cancelled → requests < budget
  exhausted : report.completion = .budgetExhausted → requests = budget

/-- A round before the others is one request more of the budget. -/
theorem Accounted.round
    {budget requests : Nat} {asked : UInt64} {report : Report}
    (accounted : Accounted budget (asked + 1) requests report) :
    Accounted (budget + 1) asked (requests + 1) report where
  iterations := by
    rw [accounted.iterations, UInt64.ofNat_add, UInt64.add_assoc,
      UInt64.add_comm 1]
    rfl
  cancelled stopped := Nat.succ_lt_succ (accounted.cancelled stopped)
  exhausted used := congrArg Nat.succ (accounted.exhausted used)

namespace Course

variable {σ μ : Type} {agent : Agent σ μ} {runId : String}
variable {budget : Nat} {asked : UInt64} {history : List Turn} {model : μ}
variable {result : Except Failure Report} {done : Trace}

/-- However it ends, a course stays within its budget. -/
theorem within_budget
    (course : Course agent runId budget asked history model result done) :
    done.requests.length ≤ budget := by
  induction course with
  | exhausted => exact Nat.le_refl 0
  | cancelled => exact Nat.zero_le _
  | unheard _ => exact Nat.succ_le_succ (Nat.zero_le _)
  | @answered _ _ _ _ reply _ _ =>
      rw [Trace.requests_of_last (answerTold_quiet reply)]
      exact Nat.succ_le_succ (Nat.zero_le _)
  | interrupted _ _ quiet =>
      rw [Trace.requests_of_last quiet]
      exact Nat.succ_le_succ (Nat.zero_le _)
  | continued _ _ answered _ inductionHypothesis =>
      rw [Trace.requests_of_round answered.quiet]
      exact Nat.succ_le_succ inductionHypothesis

theorem accounted
    (course : Course agent runId budget asked history model result done) :
    ∀ report, result = .ok report →
      Accounted budget asked done.requests.length report := by
  induction course with
  | exhausted =>
      intro report given
      cases given
      exact ⟨(UInt64.add_zero _).symm, nofun, fun _ => rfl⟩
  | cancelled =>
      intro report given
      cases given
      exact ⟨(UInt64.add_zero _).symm, fun _ => Nat.succ_pos _, nofun⟩
  | unheard _ =>
      intro report given
      cases given
  | @answered _ _ _ _ reply _ _ =>
      intro report given
      cases given
      rw [Trace.requests_of_last (answerTold_quiet reply)]
      exact ⟨rfl, nofun, nofun⟩
  | interrupted _ _ _ =>
      intro report given
      cases given
  | continued _ _ answered _ inductionHypothesis =>
      intro report given
      rw [Trace.requests_of_round answered.quiet]
      exact (inductionHypothesis report given).round

end Course

/-- The account of a whole run with so many requests. -/
structure Settled
    (maxIterations : UInt64) (requests : Nat) (report : Report) : Prop where
  iterations_eq : report.iterations.toNat = requests
  replies_eq : report.history.countP isReply = requests
  within : report.iterations ≤ maxIterations
  answered_iff :
    (∃ text, report.completion = .answered text) ↔
      EndsWith .assistant report.history
  answer : ∀ text, report.completion = .answered text →
    report.history.length = 2 * requests ∧
      ∃ answer, report.history.getLast? = some answer ∧
        answer.role = .assistant ∧ answer.hasToolUse = false ∧
          text = answer.text
  cancelled : report.completion = .cancelled →
    report.iterations < maxIterations ∧
      report.history.length = 2 * requests + 1 ∧
        EndsWith .user report.history
  exhausted : report.completion = .budgetExhausted →
    report.iterations = maxIterations ∧
      report.history.length = 2 * requests + 1 ∧
        EndsWith .user report.history

/-- The rounds and the conversation agree on the number of requests. -/
theorem settled_of_ended
    {opening : Turn} {maxIterations : UInt64} {requests : Nat}
    {report : Report}
    (byUser : opening.role = .user)
    (within : requests ≤ maxIterations.toNat)
    (accounted : Accounted maxIterations.toNat 0 requests report)
    (ended : Ended opening requests report.completion report.history) :
    Settled maxIterations requests report := by
  have iterations : report.iterations.toNat = requests := by
    rw [accounted.iterations, UInt64.zero_add]
    exact UInt64.toNat_ofNat_of_lt'
      (Nat.lt_of_le_of_lt within maxIterations.toNat_lt)
  have awaiting (unanswered : ∀ text, report.completion ≠ .answered text) :
      report.history.length = 2 * requests + 1 ∧
        EndsWith .user report.history := by
    have awaits := ended.awaits_of_unanswered unanswered
    exact ⟨awaits.length_eq, awaits.endsWith_user byUser⟩
  refine
    { iterations_eq := iterations
      replies_eq := ended.countP_isReply byUser
      within := ?_
      answered_iff := ⟨?_, ?_⟩
      answer := ?_
      cancelled := ?_
      exhausted := ?_ }
  · rw [UInt64.le_iff_toNat_le, iterations]
    exact within
  · intro answers
    obtain ⟨text, answered⟩ := answers
    rw [answered] at ended
    obtain ⟨_, answer, last, byAssistant, _⟩ := ended.answer_last
    exact ⟨answer, last, byAssistant⟩
  · intro endsSo
    obtain ⟨turn, last, byAssistant⟩ := endsSo
    by_cases answered : ∃ text, report.completion = .answered text
    · exact answered
    · have unanswered (text : String) : report.completion ≠ .answered text :=
        fun isAnswer => answered ⟨text, isAnswer⟩
      obtain ⟨_, other, alsoLast, isUser⟩ := awaiting unanswered
      rw [last] at alsoLast
      cases alsoLast
      rw [byAssistant] at isUser
      cases isUser
  · intro text answered
    rw [answered] at ended
    exact ended.answer_last
  · intro stopped
    have below := accounted.cancelled stopped
    refine ⟨?_, awaiting (by rw [stopped]; exact nofun)⟩
    rw [UInt64.lt_iff_toNat_lt, iterations]
    exact below
  · intro used
    have all := accounted.exhausted used
    refine ⟨?_, awaiting (by rw [used]; exact nofun)⟩
    rw [← UInt64.toNat_inj, iterations]
    exact all

variable {σ μ : Type} {agent : Agent σ μ} {runId task : String}
variable {computer : σ} {model : μ}
variable {result : Except Failure Report} {final : Progress σ μ}

theorem Execution.within_budget
    {done : Trace}
    (execution : Execution agent runId task computer model result done) :
    done.requests.length ≤ agent.config.maxIterations.toNat := by
  cases execution with
  | blind _ => exact Nat.zero_le _
  | sighted _ course => exact course.within_budget

theorem Execution.settled
    {done : Trace}
    (execution : Execution agent runId task computer model result done) :
    ∀ report, result = .ok report →
      Settled agent.config.maxIterations done.requests.length report := by
  intro report given
  cases execution with
  | blind _ => cases given
  | @sighted base64 _ later _ course =>
      have ended := course.report_ended .opened report given
      rw [Nat.zero_add] at ended
      exact settled_of_ended rfl course.within_budget
        (course.accounted report given) ended

/-- No run asks the model more often than its budget allows. A report counts the requests, which are
as many as the replies in its history, and its last turn and length say how the run ended. A budget
of nothing is used up after the first picture, also when the run is told to stop. -/
theorem outcome_of_execute
    (ran : agent.execute runId task computer model = (result, final)) :
    final.trace.requests.length ≤ agent.config.maxIterations.toNat ∧
    (∀ report, result = .ok report →
      Settled agent.config.maxIterations final.trace.requests.length report) ∧
    (agent.config.maxIterations = 0 →
      final.trace.requests = [] ∧
      ∀ base64, (agent.computer.screenshot computer).1 = .ok base64 →
        result = .ok ⟨runId, .budgetExhausted, 0,
          [⟨.user, [.text task, .image (.png base64)]⟩]⟩) := by
  have execution := execution_of_execute agent runId ran
  generalize final.trace = done at execution
  cases execution with
  | blind failed =>
      refine ⟨Nat.zero_le _, ?_, fun _ => ⟨rfl, ?_⟩⟩
      · intro report given
        cases given
      · intro base64 taken
        rw [failed] at taken
        cases taken
  | @sighted base64 _ later taken course =>
      have within := course.within_budget
      refine ⟨within, ?_, ?_⟩
      · intro report given
        have ended := course.report_ended .opened report given
        rw [Nat.zero_add] at ended
        exact settled_of_ended rfl within (course.accounted report given) ended
      · intro noRound
        rw [noRound] at course
        cases course with
        | exhausted =>
            refine ⟨rfl, ?_⟩
            intro other alsoTaken
            rw [taken] at alsoTaken
            cases alsoTaken
            rfl

/-- The agent of the rehearsal without a budget, told to stop before it starts. -/
def idleAgent : Agent Rehearsal.Screens Rehearsal.Replies :=
  { rehearsedAgent with
    config := { rehearsedAgent.config with maxIterations := 0 }
    cancellation := .before }

def idle : Except Failure Report × Progress Rehearsal.Screens Rehearsal.Replies :=
  idleAgent.execute "run" "task" ⟨[], [], 0⟩ rehearsedReplies

/-- The answer comes with the last request of the budget; without a budget nothing is asked. -/
theorem outcome_of_rehearsed :
    rehearsedAgent.execute "run" "task" ⟨[], [], 0⟩ rehearsedReplies =
      (.ok rehearsedReport, rehearsed.2) ∧
    Settled 3 rehearsed.2.trace.requests.length rehearsedReport ∧
    idle.2.trace.requests = [] ∧
    idle.1 = .ok ⟨"run", .budgetExhausted, 0,
      [⟨.user, [.text "task", .image (.png "screen-0")]⟩]⟩ := by
  have idleRan :
      idleAgent.execute "run" "task" ⟨[], [], 0⟩ rehearsedReplies =
        (idle.1, idle.2) := rfl
  have seen :
      (idleAgent.computer.screenshot ⟨[], [], 0⟩).1 = .ok "screen-0" := by
    with_unfolding_all rfl
  obtain ⟨_, settled, _⟩ := outcome_of_execute rehearsed_ran
  obtain ⟨_, _, noBudget⟩ := outcome_of_execute idleRan
  obtain ⟨quiet, exhausted⟩ := noBudget rfl
  exact ⟨rehearsed_ran, settled rehearsedReport rfl, quiet,
    exhausted "screen-0" seen⟩

end DesktopAgent.Agent
