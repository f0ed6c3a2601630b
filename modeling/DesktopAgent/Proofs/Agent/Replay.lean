import DesktopAgent.Proofs.Agent.Course

/-!
What a run did can be read off its report.

The replay goes through the history and writes down the events and the calls to the computer, in
their order. It is strict: where a history has another shape than the agent gives it there is no
replay, so the shapes of the results are part of the statement.
-/

namespace DesktopAgent

/-- The events and the calls to the computer, in order. -/
def Trace.visible (trace : Trace) : Trace :=
  trace.filter fun entry => entry.request?.isNone

namespace Trace

theorem visible_append (earlier later : Trace) :
    visible (earlier ++ later) = visible earlier ++ visible later :=
  List.filter_append earlier later

theorem visible_cons_request (request : Request) (later : Trace) :
    visible (.request request :: later) = visible later := rfl

theorem visible_cons_event (event : Event) (later : Trace) :
    visible (.event event :: later) = .event event :: visible later := rfl

theorem visible_cons_screenshot (later : Trace) :
    visible (.screenshot :: later) = .screenshot :: visible later := rfl

/-- Without requests all is seen. -/
theorem visible_of_quiet {trace : Trace} (quiet : trace.requests = []) :
    visible trace = trace := by
  apply List.filter_eq_self.mpr
  intro entry member
  have noRequest := List.filterMap_eq_nil_iff.mp quiet entry member
  rw [noRequest]
  rfl

end Trace

theorem Turn.hasText_eq (turn : Turn) :
    turn.hasText = !turn.texts.isEmpty := by
  unfold hasText texts
  induction turn.content with
  | nil => rfl
  | cons block blocks inductionHypothesis =>
      rw [List.any_cons, List.filterMap_cons]
      cases block.text? with
      | none => exact inductionHypothesis
      | some words => rfl

namespace Agent

/-- Replays a picture of the screen that was shown. -/
def replayPicture : Block → Option Trace
  | .image source =>
      if source = .png source.data then
        some [.event (.screenshot source.data)]
      else none
  | _ => none

/-- Replays a use of the tool from its input and its result. -/
def replayUse (id : String) (input : Json) : Block → Option Trace
  | .toolResult answered content isError =>
      if answered = id then
        match Action.ofInput input, content, isError with
        | .ok action, [.text _], false =>
            some [.event (.action action), .execute action]
        | .ok action, [picture], false => do
            let seen ← replayPicture picture
            return .event (.action action) :: .execute action :: seen
        | .error error, [.text words, picture], true =>
            if words = "Error: " ++ error.message then do
              let seen ← replayPicture picture
              return .screenshot :: seen
            else none
        | _, _, _ => none
      else none
  | _ => none

/-- Replays the blocks of a reply that asks for tools from their results. -/
def replayBlocks : List Block → List Block → Option Trace
  | [], [] => some []
  | [], _ :: _ => none
  | .text words :: blocks, results => do
      let later ← replayBlocks blocks results
      return .event (.text words) :: later
  | .toolUse _ _ _ :: _, [] => none
  | .toolUse id _ input :: blocks, result :: results => do
      let first ← replayUse id input result
      let later ← replayBlocks blocks results
      return first ++ later
  | _ :: blocks, results => replayBlocks blocks results

/-- Replays a reply that asks for no tool. -/
def replayAnswer (answer : Turn) : Trace :=
  match answer.texts with
  | [] => []
  | texts => [.event (.text ("\n".intercalate texts))]

/-- Replays the turns after the opening. The turn after a reply that asks for tools has its
results. -/
def replayTurns : List Turn → Option Trace
  | [] => some []
  | ⟨.user, _⟩ :: turns => replayTurns turns
  | ⟨.assistant, content⟩ :: turns =>
      if (Turn.assistant content).hasToolUse then do
        let results ← turns.head?
        let first ← replayBlocks content results.content
        let later ← replayTurns turns
        return first ++ later
      else do
        let later ← replayTurns turns
        return replayAnswer (.assistant content) ++ later

/-- Replays a history. -/
def replay : List Turn → Option Trace
  | ⟨.user, [.text _, picture]⟩ :: turns => do
      let seen ← replayPicture picture
      let later ← replayTurns turns
      return .screenshot :: seen ++ later
  | _ => none

@[simp]
theorem replayPicture_png (base64 : String) :
    replayPicture (.image (.png base64)) = some [.event (.screenshot base64)] := by
  simp [replayPicture, ImageSource.png]

theorem UseAnswered.replays
    {id : String} {input : Json} {result : Block} {done : Trace}
    (answered : UseAnswered id input result done) :
    replayUse id input result = some done := by
  cases answered with
  | shown reads => simp [replayUse, reads, Block.png]
  | reported reads => simp [replayUse, reads]
  | refused reads => simp [replayUse, reads, Block.png]

theorem replayBlocks_of_passed
    {block : Block}
    (noText : block.text? = none) (noUse : block.isToolUse = false)
    (blocks results : List Block) :
    replayBlocks (block :: blocks) results = replayBlocks blocks results := by
  cases block with
  | text words => cases noText
  | toolUse id name input => cases noUse
  | image source => simp only [replayBlocks]
  | toolResult id content isError => simp only [replayBlocks]
  | other raw => simp only [replayBlocks]

/-- By induction on the answers, one block at a time. -/
theorem Answered.replays
    {blocks results : List Block} {done : Trace}
    (answered : Answered blocks results done) :
    replayBlocks blocks results = some done := by
  induction answered with
  | nil => rfl
  | text _ inductionHypothesis =>
      simp only [replayBlocks, inductionHypothesis]
      rfl
  | use first _ inductionHypothesis =>
      simp only [replayBlocks, first.replays, inductionHypothesis]
      rfl
  | passed noText noUse _ inductionHypothesis =>
      rw [replayBlocks_of_passed noText noUse]
      exact inductionHypothesis

/-- What is told of a final reply is what its turn replays to. -/
theorem replayAnswer_eq (reply : Turn) :
    replayAnswer (.assistant reply.content) = answerTold reply := by
  have sameTexts : (Turn.assistant reply.content).texts = reply.texts := rfl
  unfold replayAnswer answerTold Turn.text
  rw [sameTexts, Turn.hasText_eq]
  cases reply.texts with
  | nil => rfl
  | cons first rest => rfl

theorem replayTurns_answer
    {reply : Turn} (final : reply.hasToolUse = false) :
    replayTurns [.assistant reply.content] = some (answerTold reply) := by
  have noUse : (Turn.assistant reply.content).hasToolUse = false := final
  change (if (Turn.assistant reply.content).hasToolUse then _ else _) = _
  rw [noUse, replayAnswer_eq]
  exact congrArg some (List.append_nil _)

/-- A round replays to what its reply is answered with, and then to the rest. -/
theorem replayTurns_round
    {reply : Turn} {results : List Block} {done later : Trace}
    {turns : List Turn}
    (acts : reply.hasToolUse = true)
    (answered : Answered reply.content results done)
    (goesOn : replayTurns turns = some later) :
    replayTurns (.assistant reply.content :: .user results :: turns) =
      some (done ++ later) := by
  have uses : (Turn.assistant reply.content).hasToolUse = true := acts
  have rest : replayTurns (.user results :: turns) = some later := goesOn
  have first :
      replayBlocks reply.content (Turn.user results).content = some done :=
    answered.replays
  change (if (Turn.assistant reply.content).hasToolUse then _ else _) = _
  rw [uses, rest, if_pos rfl, List.head?_cons, Option.bind_eq_bind,
    Option.bind_some, first]
  rfl

/-- What a course adds to the conversation replays to what is seen of it. -/
theorem Course.replays
    {σ μ : Type} {agent : Agent σ μ} {runId : String}
    {budget : Nat} {asked : UInt64} {history : List Turn} {model : μ}
    {result : Except Failure Report} {done : Trace}
    (course : Course agent runId budget asked history model result done) :
    ∀ report, result = .ok report →
      ∃ added, report.history = history ++ added ∧
        replayTurns added = some done.visible := by
  induction course with
  | exhausted =>
      intro report given
      cases given
      exact ⟨[], (List.append_nil _).symm, rfl⟩
  | cancelled =>
      intro report given
      cases given
      exact ⟨[], (List.append_nil _).symm, rfl⟩
  | unheard _ =>
      intro report given
      cases given
  | @answered _ _ _ _ reply _ final =>
      intro report given
      cases given
      refine ⟨[.assistant reply.content], rfl, ?_⟩
      rw [Trace.visible_cons_request,
        Trace.visible_of_quiet (answerTold_quiet reply)]
      exact replayTurns_answer final
  | interrupted _ _ _ =>
      intro report given
      cases given
  | @continued _ _ _ _ reply results done later _ _ acts answered _
      inductionHypothesis =>
      intro report given
      obtain ⟨added, grown, replayed⟩ := inductionHypothesis report given
      refine ⟨.assistant reply.content :: .user results :: added, ?_, ?_⟩
      · rw [grown, List.append_assoc]
        rfl
      · rw [Trace.visible_cons_request, Trace.visible_append,
          Trace.visible_of_quiet answered.quiet]
        exact replayTurns_round acts answered replayed

variable {σ μ : Type} {agent : Agent σ μ} {runId task : String}
variable {computer : σ} {model : μ} {final : Progress σ μ}

/-- The history of a report replays to the events and the calls to the computer of its run, in the
order in which they came. -/
theorem replay_history_of_execute
    {report : Report}
    (ran : agent.execute runId task computer model = (.ok report, final)) :
    replay report.history = some final.trace.visible := by
  have execution := execution_of_execute agent runId ran
  generalize final.trace = done at execution
  cases execution with
  | @sighted base64 _ later _ course =>
      obtain ⟨added, grown, replayed⟩ := course.replays report rfl
      have opening :
          replay (seed task base64 :: added) = (do
            let seen ← replayPicture (.image (.png base64))
            let later ← replayTurns added
            return .screenshot :: seen ++ later) := rfl
      rw [grown, List.singleton_append, opening, replayPicture_png, replayed,
        Trace.visible_cons_screenshot, Trace.visible_cons_event]
      rfl

/-- A picture after a click, the cursor without one, a picture for the input that is no action, and
the answer in one text. -/
theorem replay_history_of_rehearsed :
    rehearsedAgent.execute "run" "task" ⟨[], [], 0⟩ rehearsedReplies =
      (.ok rehearsedReport, rehearsed.2) ∧
    replay rehearsedReport.history = some rehearsed.2.trace.visible :=
  ⟨rehearsed_ran, replay_history_of_execute rehearsed_ran⟩

end Agent

end DesktopAgent
