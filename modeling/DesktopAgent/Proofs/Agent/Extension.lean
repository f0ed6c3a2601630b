import DesktopAgent.Proofs.Agent.Conversation

/-!
The model sees the whole conversation each time, and only ever an extension of what it saw before.

The conversations of a run are those of its requests, in order, and last that of its report. Each
is a prefix of every later one, and what a round adds is the reply of the model as it came.
-/

namespace DesktopAgent

/-- What a model gives to requests that reach it one after the other. -/
def Model.replies {μ : Type} (partner : Model μ) :
    List Request → μ → List (Except Failure Turn)
  | [], _ => []
  | request :: later, model =>
      (partner.reply request model).1 ::
        partner.replies later (partner.reply request model).2

namespace Agent

/-- The conversation of a report, when there is one. -/
def reported : Except Failure Report → List (List Turn)
  | .ok report => [report.history]
  | .error _ => []

/-- The conversations of a run: those of its requests and then that of its report. -/
def conversations (result : Except Failure Report) (done : Trace) : List (List Turn) :=
  done.requests.map Request.messages ++ reported result

theorem conversations_request
    (result : Except Failure Report) (request : Request) (done : Trace) :
    conversations result (.request request :: done) =
      request.messages :: conversations result done :=
  rfl

theorem conversations_quiet
    (result : Except Failure Report) {done : Trace}
    (quiet : done.requests = []) :
    conversations result done = reported result := by
  simp only [conversations, quiet, List.map_nil, List.nil_append]

theorem conversations_quiet_append
    (result : Except Failure Report) {done : Trace}
    (quiet : done.requests = []) (later : Trace) :
    conversations result (done ++ later) = conversations result later := by
  simp only [conversations, Trace.requests_append, quiet, List.nil_append]

variable {σ μ : Type} {agent : Agent σ μ}

/-- How the conversations of a run grow: from a conversation and the state of the model, the
requests that follow and the conversations from then on. -/
inductive Growth (agent : Agent σ μ) :
    List Turn → μ → List Request → List (List Turn) → Prop
  | ended {history : List Turn} {model : μ} :
      Growth agent history model [] [history]
  | failed {history : List Turn} {model : μ} :
      Growth agent history model [agent.requestFor history] [history]
  | answered {history : List Turn} {model : μ} {reply : Turn} :
      (agent.replyTo history model).1 = .ok reply →
      Growth agent history model [agent.requestFor history]
        [history, history ++ [.assistant reply.content]]
  | continued {history : List Turn} {model : μ} {reply results : Turn}
      {requests : List Request} {later : List (List Turn)} :
      (agent.replyTo history model).1 = .ok reply →
      Growth agent (history ++ [.assistant reply.content, results])
        (agent.replyTo history model).2 requests later →
      Growth agent history model (agent.requestFor history :: requests)
        (history :: later)

theorem Course.growth
    {runId : String} {budget : Nat} {asked : UInt64} {history : List Turn}
    {model : μ} {result : Except Failure Report} {done : Trace}
    (course : Course agent runId budget asked history model result done) :
    Growth agent history model done.requests (conversations result done) := by
  induction course with
  | exhausted => exact .ended
  | cancelled => exact .ended
  | unheard _ => exact .failed
  | @answered _ _ _ _ reply heard _ =>
      have quiet := answerTold_quiet reply
      rw [conversations_request, conversations_quiet _ quiet,
        Trace.requests_of_last quiet]
      exact .answered heard
  | interrupted _ _ quiet =>
      rw [conversations_request, conversations_quiet _ quiet,
        Trace.requests_of_last quiet]
      exact .failed
  | continued heard _ answered _ inductionHypothesis =>
      have quiet := answered.quiet
      rw [conversations_request, conversations_quiet_append _ quiet,
        Trace.requests_of_round quiet]
      exact .continued heard inductionHypothesis

namespace Growth

variable {history : List Turn} {model : μ}
variable {requests : List Request} {later : List (List Turn)}

theorem history_prefix (growth : Growth agent history model requests later) :
    ∀ conversation ∈ later, history <+: conversation := by
  induction growth with
  | ended => simp
  | failed => simp
  | answered _ => simp
  | @continued history _ reply results _ later _ _ inductionHypothesis =>
      intro conversation member
      rcases List.mem_cons.mp member with rfl | among
      · exact List.prefix_refl conversation
      · exact (List.prefix_append history _).trans
          (inductionHypothesis conversation among)

theorem pairwise_prefix (growth : Growth agent history model requests later) :
    later.Pairwise (· <+: ·) := by
  induction growth with
  | ended => exact List.pairwise_singleton _ _
  | failed => exact List.pairwise_singleton _ _
  | answered _ => simp
  | @continued history _ reply results _ later heard growth inductionHypothesis =>
      have whole : Growth agent history _ _ (history :: later) :=
        .continued heard growth
      apply List.pairwise_cons.mpr
      constructor
      · intro conversation among
        exact whole.history_prefix conversation (List.mem_cons_of_mem _ among)
      · exact inductionHypothesis

/-- The turn after what a request carried is the reply to it. -/
theorem reply_kept (growth : Growth agent history model requests later) :
    ∀ (index position : Nat) (conversation : List Turn),
      index < position → later[position]? = some conversation →
        ∃ reply,
          (agent.model.replies requests model)[index]? = some (.ok reply) ∧
            conversation[history.length + 2 * index]? =
              some { reply with role := .assistant } := by
  induction growth with
  | ended =>
      intro index position conversation before found
      cases position with
      | zero => cases before
      | succ position => cases found
  | failed =>
      intro index position conversation before found
      cases position with
      | zero => cases before
      | succ position => cases found
  | @answered history _ reply heard =>
      intro index position conversation before found
      match position with
      | 1 =>
          obtain rfl : index = 0 := by omega
          cases found
          exact ⟨reply, congrArg some heard, List.getElem?_concat_length⟩
      | position + 2 => cases found
  | @continued history _ reply results _ later heard growth inductionHypothesis =>
      intro index position conversation before found
      cases position with
      | zero => cases before
      | succ position =>
          cases index with
          | zero =>
              have among : conversation ∈ later := List.mem_of_getElem? found
              obtain ⟨rest, rfl⟩ := growth.history_prefix conversation among
              refine ⟨reply, congrArg some heard, ?_⟩
              rw [List.append_assoc, Nat.mul_zero, Nat.add_zero,
                List.getElem?_append_right (Nat.le_refl _), Nat.sub_self]
              rfl
          | succ index =>
              obtain ⟨kept, gave, stands⟩ :=
                inductionHypothesis index position conversation
                  (Nat.lt_of_succ_lt_succ before) found
              refine ⟨kept, gave, ?_⟩
              have shift :
                  history.length + 2 * (index + 1) =
                    (history ++ [Turn.assistant reply.content, results]).length +
                      2 * index := by
                simp only [List.length_append, List.length_cons, List.length_nil]
                omega
              rw [shift]
              exact stands

theorem request_eq (growth : Growth agent history model requests later) :
    ∀ request ∈ requests, request = agent.requestFor request.messages := by
  induction growth with
  | ended => simp
  | failed => simp [requestFor]
  | answered _ => simp [requestFor]
  | continued _ _ inductionHypothesis =>
      intro request member
      rcases List.mem_cons.mp member with rfl | among
      · rfl
      · exact inductionHypothesis request among

end Growth

variable {runId task : String} {computer : σ} {model : μ}
variable {result : Except Failure Report} {final : Progress σ μ}

/-- The request of an index carries that many rounds; the conversations of a run are prefixes of all
later ones; the turn that follows what a request carried is the reply to that request; and requests
differ in their turns only. Each declares one tool, the computer of the configured kind with the
size of its screen. -/
theorem requests_extend_of_execute
    (ran : agent.execute runId task computer model = (result, final)) :
    (∀ (index : Nat) (request : Request),
      final.trace.requests[index]? = some request →
        request.messages.length = 2 * index + 1) ∧
    (conversations result final.trace).Pairwise (· <+: ·) ∧
    (∀ (index position : Nat) (conversation : List Turn), index < position →
      (conversations result final.trace)[position]? = some conversation →
        ∃ reply,
          (agent.model.replies final.trace.requests model)[index]? =
              some (.ok reply) ∧
            conversation[2 * index + 1]? =
              some { reply with role := .assistant }) ∧
    (∀ request ∈ final.trace.requests, request =
      { model := agent.config.model
        messages := request.messages
        tools :=
          [{ kind := agent.config.toolKind
             name := "computer"
             displayWidth := agent.computer.dimensions.width
             displayHeight := agent.computer.dimensions.height }]
        system := agent.config.systemPrompt
        maxTokens := agent.config.maxTokens
        betas := agent.config.betas }) := by
  have execution := execution_of_execute agent runId ran
  generalize final.trace = done at execution
  cases execution with
  | blind failed =>
      refine ⟨?_, List.Pairwise.nil, ?_, ?_⟩
      · intro index request found
        cases found
      · intro index position conversation _ found
        cases found
      · intro request member
        cases member
  | @sighted base64 _ later taken course =>
      have awaits : Awaiting (seed task base64) 0 [seed task base64] := .opened
      have growth := course.growth
      refine ⟨?_, growth.pairwise_prefix, ?_, growth.request_eq⟩
      · intro index request found
        have sent := course.request_awaits awaits index request found
        rw [sent.length_eq, Nat.zero_add]
      · intro index position conversation before found
        rw [Nat.add_comm]
        exact growth.reply_kept index position conversation before found

/-- The first reply stays in the report after two more requests, as the assistant's. -/
theorem requests_extend_of_rehearsed :
    rehearsedAgent.execute "run" "task" ⟨[], [], 0⟩ rehearsedReplies =
      (.ok rehearsedReport, rehearsed.2) ∧
    (conversations (.ok rehearsedReport) rehearsed.2.trace).Pairwise (· <+: ·) ∧
    (conversations (.ok rehearsedReport) rehearsed.2.trace)[3]? =
      some rehearsedReport.history ∧
    ∃ reply,
      (rehearsedAgent.model.replies rehearsed.2.trace.requests
        rehearsedReplies)[0]? = some (.ok reply) ∧
      rehearsedReport.history[1]? = some { reply with role := .assistant } := by
  obtain ⟨_, grows, kept, _⟩ := requests_extend_of_execute rehearsed_ran
  have last :
      (conversations (.ok rehearsedReport) rehearsed.2.trace)[3]? =
        some rehearsedReport.history := by
    with_unfolding_all rfl
  exact ⟨rehearsed_ran, grows, last, kept 0 3 _ (by decide) last⟩

end Agent

end DesktopAgent
