import DesktopAgent.Client.Basic
import DesktopAgent.Proofs.Agent.Conversation
import DesktopAgent.Proofs.Agent.Failing

/-!
What a run exchanges with a transport.

A transport that remembers its exchanges answers as before. What a run leaves in it is read off the
course of the run: the state of a model after a run is where the requests of the trace have taken
it, and each round adds one exchange.
-/

namespace DesktopAgent

/-- The state of a model after some requests. -/
def Model.after {μ : Type} (model : Model μ) : List Request → μ → μ
  | [], state => state
  | request :: rest, state => after model rest (model.reply request state).2

namespace Agent

variable {σ μ : Type}

theorem model_of_statesAfter
    (agent : Agent σ μ) (trace : Trace) (partners : σ × μ) :
    (agent.statesAfter trace partners).2 = agent.model.after trace.requests partners.2 := by
  induction trace generalizing partners with
  | nil => rfl
  | cons entry later inductionHypothesis =>
      cases entry with
      | event event => exact inductionHypothesis partners
      | screenshot => exact inductionHypothesis _
      | execute action => exact inductionHypothesis _
      | request asked => exact inductionHypothesis _

theorem model_of_execute
    {agent : Agent σ μ} {runId task : String} {computer : σ} {model : μ}
    {result : Except Failure Report} {final : Progress σ μ}
    (ran : agent.execute runId task computer model = (result, final)) :
    final.model = agent.model.after final.trace.requests model := by
  obtain ⟨_, states⟩ := concluded_of_execute ran
  rw [← agent.model_of_statesAfter final.trace (computer, model), states]

end Agent

namespace Client

/-- A request that was given to a transport, and what came of it. -/
structure Exchange where
  request : HttpRequest
  received : Except String HttpResponse

variable {σ ν : Type}

/-- The same transport, which remembers its exchanges in order. -/
def Transport.remembering (transport : Transport ν) : Transport (ν × List Exchange) where
  exchange request state :=
    let (received, next) := transport.exchange request state.1
    (received, next, state.2 ++ [⟨request, received⟩])

/-- What is sent is the wire form of what is asked. -/
theorem body_of_prepare
    {config : Config} {request : Request} {sent : HttpRequest}
    (prepared : prepare config request = .ok sent) : sent.body = request.encode := by
  unfold prepare at prepared
  split at prepared
  · cases prepared
  · dsimp only at prepared
    repeat' split at prepared
    all_goals cases prepared
    all_goals rfl

/-- What a client does to be given one reply: it fails before it sends anything, or it sends the
request, and what is received is the reply. -/
inductive Replied (numbers : Json.NumberReading) (request : Request) (before : List Exchange) :
    Except Failure Turn → List Exchange → Prop
  | unsent {failure : Failure} :
      Replied numbers request before (.error failure) before
  | sent {exchange : Exchange} {reply : Except Failure Turn} :
      exchange.request.body = request.encode →
      (∀ turn, reply = .ok turn → receive numbers exchange.received = .ok turn) →
      Replied numbers request before reply (before ++ [exchange])

theorem replied
    (numbers : Json.NumberReading) (transport : Transport ν) (client : Client) (request : Request)
    (state : ν × List Exchange) :
    Replied numbers request state.2
      ((Client.model numbers transport.remembering client).reply request state).1
      ((Client.model numbers transport.remembering client).reply request state).2.2 := by
  simp only [model, createMessage]
  cases prepared : prepare client.config request with
  | error problem => exact .unsent
  | ok sent =>
      have added : (transport.remembering.exchange sent state).2.2 =
          state.2 ++ [⟨sent, (transport.remembering.exchange sent state).1⟩] := rfl
      dsimp only
      cases interpreted : receive numbers (transport.remembering.exchange sent state).1 with
      | error problem =>
          dsimp only
          rw [added]
          exact .sent (body_of_prepare prepared) nofun
      | ok turn =>
          dsimp only
          rw [added]
          refine .sent (body_of_prepare prepared) ?_
          intro reply given
          cases given
          exact interpreted

/-- What is exchanged from a conversation on. After an exchange nothing need follow; what does
begins with the reply of the exchange and the results of its tool uses. -/
inductive Spoken (numbers : Json.NumberReading) (requestFor : List Turn → Request) :
    List Turn → List Exchange → Prop
  | silent {history : List Turn} : Spoken numbers requestFor history []
  | last {history : List Turn} {exchange : Exchange} :
      exchange.request.body = (requestFor history).encode →
      Spoken numbers requestFor history [exchange]
  | answered {history : List Turn} {exchange : Exchange} {reply : Turn} {results : List Block}
      {later : List Exchange} :
      exchange.request.body = (requestFor history).encode →
      receive numbers exchange.received = .ok reply →
      (Turn.user results).Answers (.assistant reply.content) →
      Spoken numbers requestFor (history ++ [.assistant reply.content, .user results]) later →
      Spoken numbers requestFor history (exchange :: later)

variable {numbers : Json.NumberReading}

/-- Nothing follows a request after which the model is not asked again. -/
theorem Spoken.of_replied
    {requestFor : List Turn → Request} {history : List Turn} {before after : List Exchange}
    {reply : Except Failure Turn}
    (replied : Replied numbers (requestFor history) before reply after) :
    ∃ exchanges, after = before ++ exchanges ∧ Spoken numbers requestFor history exchanges := by
  cases replied with
  | unsent => exact ⟨[], (List.append_nil before).symm, .silent⟩
  | sent body _ => exact ⟨_, rfl, .last body⟩

/-- By induction on the course: each round that goes on adds one exchange. -/
theorem spoken_of_course
    {agent : Agent σ (ν × List Exchange)} {transport : Transport ν} {client : Client}
    (isClient : agent.model = Client.model numbers transport.remembering client)
    {runId : String} {budget : Nat} {asked : UInt64} {history : List Turn}
    {model : ν × List Exchange} {result : Except Failure Report} {done : Trace}
    (course : Agent.Course agent runId budget asked history model result done) :
    ∃ exchanges, (agent.model.after done.requests model).2 = model.2 ++ exchanges ∧
      Spoken numbers agent.requestFor history exchanges := by
  have heard (history : List Turn) (model : ν × List Exchange) :
      Replied numbers (agent.requestFor history) model.2 (agent.replyTo history model).1
        (agent.replyTo history model).2.2 := by
    unfold Agent.replyTo
    rw [isClient]
    exact replied numbers transport client _ model
  induction course with
  | exhausted => exact ⟨[], (List.append_nil _).symm, .silent⟩
  | cancelled => exact ⟨[], (List.append_nil _).symm, .silent⟩
  | @unheard _ _ history model _ _ =>
      exact Spoken.of_replied (heard history model)
  | @answered _ _ history model reply _ _ =>
      rw [Trace.requests_of_last (Agent.answerTold_quiet reply)]
      exact Spoken.of_replied (heard history model)
  | @interrupted _ _ history model _ _ _ _ _ quiet =>
      rw [Trace.requests_of_last quiet]
      exact Spoken.of_replied (heard history model)
  | @continued _ _ history model reply results _ _ _ given acts answered _
      inductionHypothesis =>
      obtain ⟨exchanges, added, spoken⟩ := inductionHypothesis
      rw [Trace.requests_of_round answered.quiet]
      have went := heard history model
      rw [given] at went
      generalize reached : (agent.replyTo history model).2.2 = after at went
      cases went with
      | @sent exchange _ body interpreted =>
          refine ⟨exchange :: exchanges, ?_, ?_⟩
          · rw [List.append_cons, ← reached]
            exact added
          · exact .answered body (interpreted reply rfl) (answered.answers acts) spoken

theorem spoken_of_execute
    {agent : Agent σ (ν × List Exchange)} {transport : Transport ν} {client : Client}
    (isClient : agent.model = Client.model numbers transport.remembering client)
    {runId task : String} {computer : σ} {state : ν} {result : Except Failure Report}
    {final : Agent.Progress σ (ν × List Exchange)}
    (ran : agent.execute runId task computer (state, []) = (result, final)) :
    ∃ history, Spoken numbers agent.requestFor history final.model.2 := by
  have reached := Agent.model_of_execute ran
  have execution := Agent.execution_of_execute agent runId ran
  rw [reached]
  generalize final.trace = done at execution
  cases execution with
  | blind _ => exact ⟨[], .silent⟩
  | @sighted base64 _ later _ course =>
      obtain ⟨exchanges, added, spoken⟩ := spoken_of_course isClient course
      have all : (agent.model.after later.requests (state, [])).2 = exchanges := added
      refine ⟨[Agent.seed task base64], ?_⟩
      change Spoken numbers agent.requestFor _ (agent.model.after later.requests (state, [])).2
      rw [all]
      exact spoken

namespace Spoken

variable {requestFor : List Turn → Request} {history : List Turn} {exchanges : List Exchange}

/-- Every exchange carries a conversation. -/
theorem body (spoken : Spoken numbers requestFor history exchanges) :
    ∀ exchange ∈ exchanges, ∃ messages, exchange.request.body = (requestFor messages).encode := by
  induction spoken with
  | silent => exact nofun
  | last body =>
      intro exchange member
      rw [List.mem_singleton.mp member]
      exact ⟨_, body⟩
  | answered body _ _ _ inductionHypothesis =>
      intro exchange member
      rcases List.mem_cons.mp member with rfl | among
      · exact ⟨_, body⟩
      · exact inductionHypothesis exchange among

/-- The conversation of an exchange is that of the exchange before it, the reply to which comes next
and then its results. -/
theorem consecutive (spoken : Spoken numbers requestFor history exchanges) :
    ∀ {index : Nat} {first second : Exchange},
      exchanges[index]? = some first → exchanges[index + 1]? = some second →
      ∃ messages reply results,
        first.request.body = (requestFor messages).encode ∧
        receive numbers first.received = .ok reply ∧
        (Turn.user results).Answers (.assistant reply.content) ∧
        second.request.body =
          (requestFor (messages ++ [.assistant reply.content, .user results])).encode := by
  induction spoken with
  | silent =>
      intro index first second found
      cases found
  | last body =>
      intro index first second _ next
      cases next
  | @answered history exchange reply results later body interpreted answers goesOn
      inductionHypothesis =>
      intro index first second found next
      cases index with
      | zero =>
          cases found
          refine ⟨history, reply, results, body, interpreted, answers, ?_⟩
          cases goesOn with
          | silent => cases next
          | last second =>
              cases next
              exact second
          | answered second _ _ _ =>
              cases next
              exact second
      | succ index => exact inductionHypothesis found next

end Spoken

end Client

end DesktopAgent
