import DesktopAgent.Proofs.Agent.Course

/-!
The conversation of a run: turns of the user and of the model take turns, and every reply that asks
for tools is followed by its results.

A conversation that awaits the model is built by rounds, each of which adds a reply and its results
together. Every request carries such a conversation, and the history of a report is one, or one
with a final answer.
-/

namespace DesktopAgent

/-- The id of the use that a result answers. -/
def Block.answeredId? : Block → Option String
  | .toolResult id _ _ => some id
  | _ => none

theorem Block.toolUseId?_of_noUse
    {block : Block} (noUse : block.isToolUse = false) :
    block.toolUseId? = none := by
  cases block with
  | toolUse id name input => cases noUse
  | text words => rfl
  | image source => rfl
  | toolResult toolUseId content isError => rfl
  | other raw => rfl

namespace Turn

/-- A turn of results alone, one for each use of the tool in a reply and in the same order. -/
structure Answers (results reply : Turn) : Prop where
  byUser : results.role = .user
  nonempty : results.content ≠ []
  onlyResults : ∀ block ∈ results.content,
    ∃ id content isError, block = .toolResult id content isError
  sameIds : results.content.filterMap Block.answeredId? = reply.toolUseIds

theorem toolUseIds_ne_nil
    {turn : Turn} (acts : turn.hasToolUse = true) :
    turn.toolUseIds ≠ [] := by
  obtain ⟨block, member, isUse⟩ := List.any_eq_true.mp acts
  cases block with
  | toolUse id name input =>
      have listed : id ∈ turn.toolUseIds :=
        List.mem_filterMap.mpr ⟨.toolUse id name input, member, rfl⟩
      exact List.ne_nil_of_mem listed
  | text words => cases isUse
  | image source => cases isUse
  | toolResult toolUseId content isError => cases isUse
  | other raw => cases isUse

end Turn

namespace Agent

theorem UseAnswered.isResult
    {id : String} {input : Json} {result : Block} {done : Trace}
    (answered : UseAnswered id input result done) :
    ∃ content isError, result = .toolResult id content isError := by
  cases answered with
  | shown => exact ⟨_, _, rfl⟩
  | reported => exact ⟨_, _, rfl⟩
  | refused => exact ⟨_, _, rfl⟩

namespace Answered

variable {blocks results : List Block} {done : Trace}

theorem onlyResults (answered : Answered blocks results done) :
    ∀ block ∈ results,
      ∃ id content isError, block = .toolResult id content isError := by
  induction answered with
  | nil => simp
  | text _ inductionHypothesis => exact inductionHypothesis
  | passed _ _ _ inductionHypothesis => exact inductionHypothesis
  | use first _ inductionHypothesis =>
      intro block member
      rcases List.mem_cons.mp member with rfl | later
      · exact ⟨_, first.isResult⟩
      · exact inductionHypothesis block later

theorem sameIds (answered : Answered blocks results done) :
    results.filterMap Block.answeredId? =
      blocks.filterMap Block.toolUseId? := by
  induction answered with
  | nil => rfl
  | text _ inductionHypothesis => exact inductionHypothesis
  | use first _ inductionHypothesis =>
      obtain ⟨content, isError, rfl⟩ := first.isResult
      simp only [List.filterMap_cons, Block.answeredId?, Block.toolUseId?,
        inductionHypothesis]
  | passed _ noUse _ inductionHypothesis =>
      have noId := Block.toolUseId?_of_noUse noUse
      rw [inductionHypothesis, List.filterMap_cons_none noId]

theorem answers
    {reply : Turn} (answered : Answered reply.content results done)
    (acts : reply.hasToolUse = true) :
    (Turn.user results).Answers (.assistant reply.content) where
  byUser := rfl
  nonempty := by
    intro (noResults : results = [])
    apply Turn.toolUseIds_ne_nil acts
    have sameIds := answered.sameIds
    rw [noResults] at sameIds
    exact sameIds.symm
  onlyResults := answered.onlyResults
  sameIds := answered.sameIds

end Answered

/-- A conversation after so many rounds: each added a reply that asks for tools, and its results. -/
inductive Awaiting (opening : Turn) : Nat → List Turn → Prop
  | opened : Awaiting opening 0 [opening]
  | answered {rounds : Nat} {history : List Turn} {reply results : Turn} :
      Awaiting opening rounds history →
      reply.role = .assistant →
      reply.hasToolUse = true →
      results.Answers reply →
      Awaiting opening (rounds + 1) (history ++ [reply, results])

/-- The conversation of a report: an answer ends it, or it still awaits the model. -/
inductive Ended (opening : Turn) : Nat → Completion → List Turn → Prop
  | awaiting {rounds : Nat} {completion : Completion} {history : List Turn} :
      (∀ text, completion ≠ .answered text) →
      Awaiting opening rounds history →
      Ended opening rounds completion history
  | answered {rounds : Nat} {history : List Turn} {answer : Turn} :
      Awaiting opening rounds history →
      answer.role = .assistant →
      answer.hasToolUse = false →
      Ended opening (rounds + 1) (.answered answer.text) (history ++ [answer])

namespace Awaiting

variable {opening : Turn} {rounds : Nat} {history : List Turn}

theorem length_eq (awaits : Awaiting opening rounds history) :
    history.length = 2 * rounds + 1 := by
  induction awaits with
  | opened => rfl
  | answered _ _ _ _ inductionHypothesis =>
      rw [List.length_append, inductionHypothesis]
      simp only [List.length_cons, List.length_nil]
      omega

end Awaiting

/-- A trace with one request, which stands at its head. -/
theorem eq_of_getElem?_requests
    {first request : Request} {done : Trace} {index : Nat}
    (quiet : done.requests = [])
    (found : (Trace.requests (.request first :: done))[index]? = some request) :
    index = 0 ∧ request = first := by
  rw [Trace.requests_of_last quiet] at found
  cases index with
  | zero =>
      cases found
      exact ⟨rfl, rfl⟩
  | succ index => cases found

namespace Course

variable {σ μ : Type} {agent : Agent σ μ} {runId : String}
variable {budget : Nat} {asked : UInt64} {history : List Turn} {model : μ}
variable {result : Except Failure Report} {done : Trace}
variable {opening : Turn} {rounds : Nat}

/-- The request of an index carries the conversation after so many rounds more. -/
theorem request_awaits
    (course : Course agent runId budget asked history model result done)
    (awaits : Awaiting opening rounds history) :
    ∀ index request, done.requests[index]? = some request →
      Awaiting opening (rounds + index) request.messages := by
  induction course generalizing rounds with
  | exhausted => simp
  | cancelled => simp
  | unheard _ =>
      intro index request found
      obtain ⟨rfl, rfl⟩ := eq_of_getElem?_requests rfl found
      exact awaits
  | @answered _ _ _ _ reply _ _ =>
      intro index request found
      obtain ⟨rfl, rfl⟩ :=
        eq_of_getElem?_requests (answerTold_quiet reply) found
      exact awaits
  | interrupted _ _ quiet =>
      intro index request found
      obtain ⟨rfl, rfl⟩ := eq_of_getElem?_requests quiet found
      exact awaits
  | continued _ acts answered _ inductionHypothesis =>
      intro index request found
      rw [Trace.requests_of_round answered.quiet] at found
      cases index with
      | zero =>
          cases found
          exact awaits
      | succ index =>
          have later :=
            inductionHypothesis (awaits.answered rfl acts (answered.answers acts))
              index request found
          rw [Nat.add_right_comm] at later
          exact later

/-- The report ends the conversation that the last request carried, or that request's rounds. -/
theorem report_ended
    (course : Course agent runId budget asked history model result done)
    (awaits : Awaiting opening rounds history) :
    ∀ report, result = .ok report →
      Ended opening (rounds + done.requests.length) report.completion
        report.history := by
  induction course generalizing rounds with
  | exhausted =>
      intro report given
      cases given
      exact .awaiting nofun awaits
  | cancelled =>
      intro report given
      cases given
      exact .awaiting nofun awaits
  | unheard _ =>
      intro report given
      cases given
  | @answered _ _ history _ reply _ final =>
      intro report given
      cases given
      rw [Trace.requests_of_last (answerTold_quiet reply)]
      have ended :
          Ended opening (rounds + 1)
            (.answered (Turn.assistant reply.content).text)
            (history ++ [.assistant reply.content]) :=
        .answered awaits rfl final
      exact ended
  | interrupted _ _ _ =>
      intro report given
      cases given
  | continued _ acts answered _ inductionHypothesis =>
      intro report given
      have ended :=
        inductionHypothesis (awaits.answered rfl acts (answered.answers acts))
          report given
      rw [Nat.add_right_comm] at ended
      rw [Trace.requests_of_round answered.quiet, List.length_cons]
      exact ended

end Course

end Agent

end DesktopAgent
