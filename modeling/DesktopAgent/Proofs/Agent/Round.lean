import DesktopAgent.Proofs.Agent.Stretch

/-!
What happens within a round: the question to the model, and the answers to the tool uses of its
reply.

How a list of blocks is answered is a relation between the blocks, the results and what was done.
It does not speak of the partners: whatever they do, a result and its share of the trace come from
the same answer to the same use.
-/

namespace DesktopAgent

namespace Trace

@[simp]
theorem requests_nil : requests [] = [] := rfl

@[simp]
theorem requests_append (earlier later : Trace) :
    requests (earlier ++ later) = requests earlier ++ requests later :=
  List.filterMap_append

@[simp]
theorem requests_cons_request (request : Request) (later : Trace) :
    requests (.request request :: later) = request :: requests later := rfl

/-- A request after which nothing is asked. -/
theorem requests_of_last
    {done : Trace} (quiet : requests done = []) (request : Request) :
    requests (.request request :: done) = [request] :=
  congrArg (request :: ·) quiet

/-- A request and what is done before the next one. -/
theorem requests_of_round
    {done : Trace} (quiet : requests done = [])
    (request : Request) (later : Trace) :
    requests (.request request :: (done ++ later)) =
      request :: requests later := by
  rw [requests_cons_request, requests_append, quiet, List.nil_append]

end Trace

namespace Agent

variable {σ μ : Type} (agent : Agent σ μ)

/-- What is done for a picture of the screen. One that fails is not shown. -/
def pictureTaken : Except Failure String → Trace
  | .ok base64 => [.screenshot, .event (.screenshot base64)]
  | .error _ => [.screenshot]

theorem takeScreenshot_meets (progress : Progress σ μ) :
    Meets agent.takeScreenshot progress fun result done after =>
      result = (agent.computer.screenshot progress.computer).1 ∧
        done = pictureTaken result ∧ after.model = progress.model := by
  unfold takeScreenshot
  apply Meets.note_bind
  have called (start : Progress σ μ) :
      Meets (callComputer agent.computer.screenshot) start fun result done after =>
        result = (agent.computer.screenshot start.computer).1 ∧
          done = [] ∧ after.model = start.model :=
    Meets.callComputer ⟨rfl, rfl, rfl⟩
  apply Meets.bind (called _)
  · intro base64 done after met
    obtain ⟨taken, rfl, model⟩ := met
    apply Meets.note_bind
    exact Meets.pure ⟨taken, rfl, model⟩
  · intro failure done after met
    obtain ⟨failed, rfl, model⟩ := met
    exact ⟨failed, rfl, model⟩

theorem perform_meets (action : Action) (progress : Progress σ μ) :
    Meets (agent.perform action) progress fun _ done after =>
      done = [.execute action] ∧ after.model = progress.model := by
  unfold perform
  apply Meets.note_bind
  exact Meets.callComputer ⟨rfl, rfl⟩

/-- What the model gives to a conversation, and where that leaves it. -/
def replyTo (history : List Turn) (model : μ) : Except Failure Turn × μ :=
  agent.model.reply (agent.requestFor history) model

/-- Asking notes the whole request and takes the reply as the assistant's. -/
theorem ask_meets (history : List Turn) (progress : Progress σ μ) :
    Meets (agent.ask history) progress fun result done after =>
      done = [.request (agent.requestFor history)] ∧
        after.model = (agent.replyTo history progress.model).2 ∧
        match result with
        | .ok turn => ∃ reply,
            (agent.replyTo history progress.model).1 = .ok reply ∧
              turn = .assistant reply.content
        | .error failure =>
            (agent.replyTo history progress.model).1 = .error failure := by
  unfold ask
  apply Meets.note_bind
  have called (start : Progress σ μ) :
      Meets (callModel (agent.replyTo history)) start fun result done after =>
        done = [] ∧
          after.model = (agent.replyTo history start.model).2 ∧
          (agent.replyTo history start.model).1 = result :=
    Meets.callModel ⟨rfl, rfl, rfl⟩
  apply Meets.bind (called _)
  · intro reply done after met
    obtain ⟨rfl, model, heard⟩ := met
    exact Meets.pure ⟨rfl, model, reply, heard, rfl⟩
  · intro failure done after met
    obtain ⟨rfl, model, unheard⟩ := met
    exact ⟨rfl, model, unheard⟩

/-- What a use of the tool is answered with, and what is done for it. -/
inductive UseAnswered (id : String) (input : Json) : Block → Trace → Prop
  | shown {action : Action} {base64 : String} :
      Action.ofInput input = .ok action →
      UseAnswered id input (.toolResult id [.png base64] false)
        [.event (.action action), .execute action, .event (.screenshot base64)]
  | reported {action : Action} {report : String} :
      Action.ofInput input = .ok action →
      UseAnswered id input (.toolResult id [.text report] false)
        [.event (.action action), .execute action]
  | refused {error : Action.InputError} {base64 : String} :
      Action.ofInput input = .error error →
      UseAnswered id input
        (.toolResult id [.text ("Error: " ++ error.message), .png base64] true)
        [.screenshot, .event (.screenshot base64)]

/-- What the blocks of a reply are answered with, and what is done for them. -/
inductive Answered : List Block → List Block → Trace → Prop
  | nil : Answered [] [] []
  | text {words : String} {blocks results : List Block} {done : Trace} :
      Answered blocks results done →
      Answered (.text words :: blocks) results (.event (.text words) :: done)
  | use {id name : String} {input : Json} {result : Block}
      {blocks results : List Block} {first done : Trace} :
      UseAnswered id input result first →
      Answered blocks results done →
      Answered (.toolUse id name input :: blocks) (result :: results) (first ++ done)
  | passed {block : Block} {blocks results : List Block} {done : Trace} :
      block.text? = none →
      block.isToolUse = false →
      Answered blocks results done →
      Answered (block :: blocks) results done

theorem UseAnswered.quiet
    {id : String} {input : Json} {result : Block} {done : Trace}
    (answered : UseAnswered id input result done) :
    done.requests = [] := by
  cases answered <;> rfl

/-- The model has no part in the answers. -/
theorem Answered.quiet
    {blocks results : List Block} {done : Trace}
    (answered : Answered blocks results done) :
    done.requests = [] := by
  induction answered with
  | nil => rfl
  | text _ quiet => exact quiet
  | use first _ quiet => simp [first.quiet, quiet]
  | passed _ _ _ quiet => exact quiet

/-- What is asked of a stretch that answers: it leaves the model alone, and a value that it gives
is an answer. -/
def Answering {α : Type} (answer : α → Trace → Prop) (model : μ) : Goal σ μ α :=
  fun result done after =>
    after.model = model ∧ done.requests = [] ∧
      ∀ value, result = .ok value → answer value done

namespace Answering

variable {α : Type} {answer : α → Trace → Prop} {model : μ}
variable {done : Trace} {after : Progress σ μ}

theorem given
    {value : α}
    (kept : after.model = model) (quiet : done.requests = [])
    (holds : answer value done) :
    Answering answer model (.ok value) done after := by
  refine ⟨kept, quiet, ?_⟩
  intro value given
  cases given
  exact holds

theorem failed
    {failure : Failure}
    (kept : after.model = model) (quiet : done.requests = []) :
    Answering answer model (.error failure) done after := by
  refine ⟨kept, quiet, ?_⟩
  intro value given
  cases given

end Answering

theorem showObservation_meets
    (observation : Observation) (progress : Progress σ μ) :
    Meets (showObservation observation) progress fun result done after =>
      after.model = progress.model ∧
        match observation with
        | .screenshot base64 =>
            result = .ok [.png base64] ∧ done = [.event (.screenshot base64)]
        | .cursorPosition report =>
            result = .ok [.text report] ∧ done = [] := by
  cases observation with
  | screenshot base64 =>
      apply Meets.note_bind
      exact Meets.pure ⟨rfl, rfl, rfl⟩
  | cursorPosition report =>
      exact Meets.pure ⟨rfl, rfl, rfl⟩

theorem runTool_meets
    (id : String) (input : Json) (progress : Progress σ μ) :
    Meets (agent.runTool id input) progress
      (Answering (UseAnswered id input) progress.model) := by
  unfold runTool
  cases reads : Action.ofInput input with
  | ok action =>
      apply Meets.note_bind
      apply Meets.bind (agent.perform_meets action _)
      · intro observation done after met
        obtain ⟨rfl, kept⟩ := met
        apply Meets.bind (showObservation_meets observation after)
        · intro content done final met
          obtain ⟨stillKept, shown⟩ := met
          have modelKept : final.model = progress.model :=
            stillKept.trans kept
          apply Meets.pure
          cases observation with
          | screenshot base64 =>
              obtain ⟨⟨⟩, rfl⟩ := shown
              exact .given modelKept rfl (.shown reads)
          | cursorPosition report =>
              obtain ⟨⟨⟩, rfl⟩ := shown
              exact .given modelKept rfl (.reported reads)
        · intro failure done final met
          obtain ⟨_, shown⟩ := met
          cases observation with
          | screenshot base64 => cases shown.1
          | cursorPosition report => cases shown.1
      · intro failure done after met
        obtain ⟨rfl, kept⟩ := met
        exact .failed kept rfl
  | error error =>
      apply Meets.bind (agent.takeScreenshot_meets progress)
      · intro base64 done after met
        obtain ⟨_, rfl, kept⟩ := met
        exact Meets.pure (.given kept rfl (.refused reads))
      · intro failure done after met
        obtain ⟨_, rfl, kept⟩ := met
        exact .failed kept rfl

theorem act_of_passed
    {block : Block}
    (noText : block.text? = none) (noUse : block.isToolUse = false)
    (blocks : List Block) :
    agent.act (block :: blocks) = agent.act blocks := by
  cases block with
  | text words => cases noText
  | toolUse id name input => cases noUse
  | image source => rfl
  | toolResult toolUseId content isError => rfl
  | other raw => rfl

/-- By induction on the blocks: each block extends the answer as the relation does. -/
theorem act_meets (blocks : List Block) (progress : Progress σ μ) :
    Meets (agent.act blocks) progress
      (Answering (Answered blocks) progress.model) := by
  induction blocks generalizing progress with
  | nil =>
      exact Meets.pure (.given rfl rfl .nil)
  | cons block blocks inductionHypothesis =>
      have passes
          (noText : block.text? = none) (noUse : block.isToolUse = false) :
          Meets (agent.act (block :: blocks)) progress
            (Answering (Answered (block :: blocks)) progress.model) := by
        rw [agent.act_of_passed noText noUse blocks]
        apply (inductionHypothesis progress).mono
        intro result done after met
        obtain ⟨kept, quiet, answers⟩ := met
        exact ⟨kept, quiet, fun results given =>
          .passed noText noUse (answers results given)⟩
      cases block with
      | text words =>
          apply Meets.note_bind
          apply (inductionHypothesis _).mono
          intro result done after met
          obtain ⟨kept, quiet, answers⟩ := met
          exact ⟨kept, quiet, fun results given =>
            .text (answers results given)⟩
      | toolUse id name input =>
          apply Meets.bind (agent.runTool_meets id input progress)
          · intro result first middle met
            obtain ⟨kept, firstQuiet, answer⟩ := met
            apply Meets.bind (inductionHypothesis middle)
            · intro results done after met
              obtain ⟨stillKept, quiet, answers⟩ := met
              apply Meets.pure
              rw [List.append_nil]
              exact .given (stillKept.trans kept) (by simp [firstQuiet, quiet])
                (.use (answer result rfl) (answers results rfl))
            · intro failure done after met
              obtain ⟨stillKept, quiet, _⟩ := met
              exact .failed (stillKept.trans kept) (by simp [firstQuiet, quiet])
          · intro failure done after met
            obtain ⟨kept, quiet, _⟩ := met
            exact .failed kept quiet
      | image source => exact passes rfl rfl
      | toolResult toolUseId content isError => exact passes rfl rfl
      | other raw => exact passes rfl rfl

/-- What is told of a reply that ends the run. -/
def answerTold (reply : Turn) : Trace :=
  if reply.hasText then [.event (.text reply.text)] else []

theorem answerTold_quiet (reply : Turn) :
    Trace.requests (answerTold reply) = [] := by
  unfold answerTold
  split <;> rfl

theorem tellAnswer_meets (reply : Turn) (progress : Progress σ μ) :
    Meets (tellAnswer reply) progress fun result done after =>
      result = .ok () ∧ done = answerTold reply ∧ after.model = progress.model := by
  unfold tellAnswer answerTold
  split
  · exact Meets.note ⟨rfl, rfl, rfl⟩
  · exact Meets.pure ⟨rfl, rfl, rfl⟩

theorem isCancelled_meets (progress : Progress σ μ) :
    Meets agent.isCancelled progress fun result done after =>
      result = .ok (agent.cancellation.isDue progress.trace) ∧
        done = [] ∧ after = progress :=
  ⟨[], (List.append_nil progress.trace).symm, rfl, rfl, rfl⟩

end Agent

end DesktopAgent
