import DesktopAgent.Proofs.Agent.Dialogue
import DesktopAgent.Proofs.Agent.Loop

/-!
A run fails exactly when a call of it fails, at that call and with its failure.

What the calls of a run gave is read off its trace: the calls in it are made again, one after the
other, from the states in which the partners began. Both statements are inductions on dialogues:
what the calls gave until the end, and that runs with different partners stay together as long as
their calls give the same.
-/

namespace DesktopAgent

/-- The call of an entry. An event is no call. -/
def Entry.call? : Entry → Option Call
  | .screenshot => some .screenshot
  | .execute action => some (.execute action)
  | .request asked => some (.request asked)
  | .event _ => none

theorem Call.call?_entry (call : Call) : call.entry.call? = some call := by
  cases call <;> rfl

/-- What a call gave. -/
structure Returned where
  call : Call
  result : Except Failure call.Value

/-- The failure of a call, when it gave one. -/
def Returned.failure? (returned : Returned) : Option Failure :=
  match returned.result with
  | .ok _ => none
  | .error failure => some failure

namespace Agent

variable {σ μ σ' μ' α : Type}

/-- What the entries of a trace give when its calls are made one after the other from states of the
partners. -/
def returns (agent : Agent σ μ) : Trace → σ × μ → List (Option Returned)
  | [], _ => []
  | entry :: later, partners =>
      match entry.call? with
      | none => none :: returns agent later partners
      | some call =>
          some ⟨call, (agent.answer call partners).1⟩ ::
            returns agent later (agent.answer call partners).2

/-- Where the calls of a trace leave the partners. -/
def statesAfter (agent : Agent σ μ) : Trace → σ × μ → σ × μ
  | [], partners => partners
  | entry :: later, partners =>
      match entry.call? with
      | none => statesAfter agent later partners
      | some call => statesAfter agent later (agent.answer call partners).2

theorem returns_event
    (agent : Agent σ μ) (event : Event) (later : Trace) (partners : σ × μ) :
    agent.returns (.event event :: later) partners =
      none :: agent.returns later partners :=
  rfl

theorem returns_call
    (agent : Agent σ μ) (call : Call) (later : Trace) (partners : σ × μ) :
    agent.returns (call.entry :: later) partners =
      some ⟨call, (agent.answer call partners).1⟩ ::
        agent.returns later (agent.answer call partners).2 := by
  simp only [returns, call.call?_entry]

theorem statesAfter_call
    (agent : Agent σ μ) (call : Call) (later : Trace) (partners : σ × μ) :
    agent.statesAfter (call.entry :: later) partners =
      agent.statesAfter later (agent.answer call partners).2 := by
  simp only [statesAfter, call.call?_entry]

theorem length_returns (agent : Agent σ μ) (trace : Trace) (partners : σ × μ) :
    (agent.returns trace partners).length = trace.length := by
  induction trace generalizing partners with
  | nil => rfl
  | cons entry later inductionHypothesis =>
      cases called : entry.call? with
      | none => simp only [returns, called, List.length_cons, inductionHypothesis]
      | some call => simp only [returns, called, List.length_cons, inductionHypothesis]

/-- What a trace gives comes from calls to the partners. -/
theorem answer_of_mem_returns
    {agent : Agent σ μ} {trace : Trace} {partners : σ × μ} {returned : Returned}
    (member : some returned ∈ agent.returns trace partners) :
    ∃ call states, returned = ⟨call, (agent.answer call states).1⟩ := by
  induction trace generalizing partners with
  | nil => cases member
  | cons entry later inductionHypothesis =>
      cases called : entry.call? with
      | none =>
          simp only [returns, called, List.mem_cons, reduceCtorEq, false_or] at member
          exact inductionHypothesis member
      | some call =>
          simp only [returns, called, List.mem_cons, Option.some.injEq] at member
          rcases member with rfl | among
          · exact ⟨call, partners, rfl⟩
          · exact inductionHypothesis among

/-- The entry of an index is a call that gives a failure. -/
def FailsAt
    (agent : Agent σ μ) (trace : Trace) (partners : σ × μ)
    (index : Nat) (failure : Failure) : Prop :=
  ∃ returned, (agent.returns trace partners)[index]? = some (some returned) ∧
    returned.failure? = some failure

/-- What the calls gave when a part of a run ends: all of them a value, or the last of them the
failure with which it ends. -/
inductive Concluded : Except Failure α → List (Option Returned) → Prop
  | given (value : α) : Concluded (.ok value) []
  | failed (call : Call) (failure : Failure) :
      Concluded (.error failure) [some ⟨call, .error failure⟩]
  | told {result : Except Failure α} {returned : List (Option Returned)} :
      Concluded result returned →
      Concluded result (none :: returned)
  | called {result : Except Failure α} {returned : List (Option Returned)}
      (call : Call) (value : call.Value) :
      Concluded result returned →
      Concluded result (some ⟨call, .ok value⟩ :: returned)

namespace Concluded

variable {result : Except Failure α} {returned : List (Option Returned)}

/-- A failing call is the last one, and its failure is the result. -/
theorem of_failing
    (concluded : Concluded result returned) {index : Nat} {last : Returned}
    {failure : Failure}
    (found : returned[index]? = some (some last)) (fails : last.failure? = some failure) :
    result = .error failure ∧ index + 1 = returned.length := by
  induction concluded generalizing index with
  | given value => cases found
  | failed call other =>
      cases index with
      | zero =>
          cases found
          cases fails
          exact ⟨rfl, rfl⟩
      | succ index => cases found
  | told _ inductionHypothesis =>
      cases index with
      | zero => cases found
      | succ index =>
          obtain ⟨isResult, atEnd⟩ := inductionHypothesis found
          exact ⟨isResult, congrArg (· + 1) atEnd⟩
  | called call value _ inductionHypothesis =>
      cases index with
      | zero =>
          cases found
          cases fails
      | succ index =>
          obtain ⟨isResult, atEnd⟩ := inductionHypothesis found
          exact ⟨isResult, congrArg (· + 1) atEnd⟩

theorem exists_failing
    {failure : Failure} (concluded : Concluded (.error failure : Except Failure α) returned) :
    ∃ (index : Nat) (last : Returned), returned[index]? = some (some last) ∧
      last.failure? = some failure := by
  generalize isError : (.error failure : Except Failure α) = result at concluded
  induction concluded with
  | given value => cases isError
  | failed call other =>
      cases isError
      exact ⟨0, ⟨call, .error failure⟩, rfl, rfl⟩
  | told _ inductionHypothesis =>
      obtain ⟨index, last, found, fails⟩ := inductionHypothesis isError
      exact ⟨index + 1, last, found, fails⟩
  | called call value _ inductionHypothesis =>
      obtain ⟨index, last, found, fails⟩ := inductionHypothesis isError
      exact ⟨index + 1, last, found, fails⟩

end Concluded

/-- By induction on the dialogue: the trace has every call, and a failure ends it. -/
theorem held_meets
    (agent : Agent σ μ) (dialogue : Dialogue α) (progress : Progress σ μ) :
    Meets (dialogue.held agent) progress fun result done after =>
      Concluded result (agent.returns done progress.partners) ∧
        agent.statesAfter done progress.partners = after.partners := by
  induction dialogue generalizing progress with
  | ends value => exact Meets.pure ⟨.given value, rfl⟩
  | tells event next inductionHypothesis =>
      apply Meets.note_bind
      apply (inductionHypothesis _).mono
      intro result later after met
      obtain ⟨concluded, states⟩ := met
      exact ⟨.told concluded, states⟩
  | calls call next inductionHypothesis =>
      unfold Meets
      rw [Dialogue.run_held_calls]
      rcases answered : agent.answer call progress.partners with
        ⟨failure | value, computer, model⟩
      · refine ⟨[call.entry], rfl, ?_, ?_⟩
        · rw [returns_call, answered]
          exact .failed call failure
        · rw [statesAfter_call, answered]
          rfl
      · obtain ⟨later, traced, concluded, states⟩ :=
          inductionHypothesis value ⟨progress.trace ++ [call.entry], computer, model⟩
        refine ⟨call.entry :: later, ?_, ?_, ?_⟩
        · exact traced.trans (List.append_cons _ call.entry later).symm
        · rw [returns_call, answered]
          exact .called call value concluded
        · rw [statesAfter_call, answered]
          exact states
  | checks next inductionHypothesis =>
      exact inductionHypothesis (agent.cancellation.isDue progress.trace) progress

/-- What a dialogue adds comes after what the trace holds. -/
theorem held_trace
    (agent : Agent σ μ) (dialogue : Dialogue α) (progress : Progress σ μ) :
    progress.trace <+: ((dialogue.held agent).run progress).2.trace := by
  obtain ⟨done, traced, _⟩ := agent.held_meets dialogue progress
  exact ⟨done, traced.symm⟩

theorem held_calls_trace
    (agent : Agent σ μ) (call : Call) (next : call.Value → Dialogue α)
    (progress : Progress σ μ) :
    progress.trace ++ [call.entry] <+:
      (((Dialogue.calls call next).held agent).run progress).2.trace := by
  rw [Dialogue.run_held_calls]
  rcases agent.answer call progress.partners with ⟨failure | value, computer, model⟩
  · exact List.prefix_refl _
  · exact agent.held_trace (next value) ⟨progress.trace ++ [call.entry], computer, model⟩

/-- Where it is known what is added first. -/
theorem head_of_added
    {trace final before later : Trace} {head entry : Entry}
    (added : final = trace ++ (before ++ entry :: later))
    (begins : trace ++ [head] <+: final) :
    before = [] ∧ entry = head ∨
      ∃ more, before = head :: more ∧
        final = trace ++ [head] ++ (more ++ entry :: later) := by
  obtain ⟨rest, split⟩ := begins
  rw [added, List.append_assoc] at split
  have same : head :: rest = before ++ entry :: later :=
    List.append_cancel_left split
  cases before with
  | nil => exact Or.inl ⟨rfl, (List.cons.inj same).1.symm⟩
  | cons first more =>
      obtain rfl : head = first := (List.cons.inj same).1
      exact Or.inr ⟨more, rfl, added.trans (List.append_cons trace head _)⟩

/-- By induction on the dialogue: as long as the calls give the same, so that the dialogues go on in
the same way, the next entry is the same. -/
theorem held_together
    {first : Agent σ μ} {second : Agent σ' μ'}
    (cancellations : second.cancellation = first.cancellation)
    (dialogue : Dialogue α) (progress : Progress σ μ) (other : Progress σ' μ')
    (traces : other.trace = progress.trace)
    {before later : Trace} {entry : Entry}
    (added : ((dialogue.held first).run progress).2.trace =
      progress.trace ++ (before ++ entry :: later))
    (same : second.returns before other.partners =
      first.returns before progress.partners) :
    progress.trace ++ (before ++ [entry]) <+:
      ((dialogue.held second).run other).2.trace := by
  induction dialogue generalizing progress other before with
  | ends value =>
      have none : [] = before ++ entry :: later :=
        List.append_cancel_left ((List.append_nil progress.trace).trans added)
      exact absurd none (by simp)
  | tells event next inductionHypothesis =>
      rw [Dialogue.run_held_tells] at added ⊢
      have begins := first.held_trace next
        { progress with trace := progress.trace ++ [.event event] }
      rcases head_of_added added begins with ⟨rfl, rfl⟩ | ⟨more, rfl, rest⟩
      · have alsoBegins := second.held_trace next
          { other with trace := other.trace ++ [.event event] }
        rw [traces] at alsoBegins ⊢
        exact alsoBegins
      · rw [returns_event, returns_event] at same
        rw [List.cons_append, List.append_cons]
        exact inductionHypothesis _ _ (congrArg (· ++ [.event event]) traces) rest
          (List.cons.inj same).2
  | calls call next inductionHypothesis =>
      rcases head_of_added added (first.held_calls_trace call next progress) with
        ⟨rfl, rfl⟩ | ⟨more, rfl, rest⟩
      · have alsoBegins := second.held_calls_trace call next other
        rw [traces] at alsoBegins
        exact alsoBegins
      · rw [returns_call, returns_call] at same
        obtain ⟨sameReturned, sameLater⟩ := List.cons.inj same
        rw [Dialogue.run_held_calls] at rest ⊢
        rcases answered : first.answer call progress.partners with
          ⟨failure | value, computer, model⟩
        · rw [answered] at rest
          have none := List.append_cancel_left ((List.append_nil _).trans rest)
          exact absurd none (by simp)
        · rcases alsoAnswered : second.answer call other.partners with
            ⟨result, otherComputer, otherModel⟩
          rw [answered, alsoAnswered] at sameReturned sameLater
          -- The first run goes on, so the call gave it a value, and the other run the same.
          obtain rfl : result = .ok value := by simpa using sameReturned
          rw [answered] at rest
          rw [List.cons_append, List.append_cons]
          exact inductionHypothesis value _ _ (congrArg (· ++ [call.entry]) traces) rest
            sameLater
  | checks next inductionHypothesis =>
      rw [Dialogue.run_held_checks] at added ⊢
      rw [traces, cancellations]
      exact inductionHypothesis _ _ _ traces added same

/-- Two agents that differ in what their partners do and in nothing else. -/
structure SameSettings (first : Agent σ μ) (second : Agent σ' μ') : Prop where
  config : second.config = first.config
  cancellation : second.cancellation = first.cancellation
  dimensions : second.computer.dimensions = first.computer.dimensions

theorem SameSettings.requestFor
    {first : Agent σ μ} {second : Agent σ' μ'} (same : SameSettings first second) :
    second.requestFor = first.requestFor := by
  funext history
  unfold Agent.requestFor
  rw [same.config, same.dimensions]

variable {agent : Agent σ μ} {runId task : String} {computer : σ} {model : μ}
variable {result : Except Failure Report} {final : Progress σ μ}

theorem concluded_of_execute
    (ran : agent.execute runId task computer model = (result, final)) :
    Concluded result (agent.returns final.trace (computer, model)) ∧
      agent.statesAfter final.trace (computer, model) =
        (final.computer, final.model) := by
  obtain ⟨dialogue, held⟩ := exists_dialogue_of_run agent.requestFor
    agent.config.maxIterations runId task
  obtain ⟨done, traced, concluded, states⟩ :=
    agent.held_meets dialogue ⟨[], computer, model⟩
  have outcome : (dialogue.held agent).run ⟨[], computer, model⟩ = (result, final) := by
    rw [← held σ μ agent rfl rfl]
    exact ran
  rw [outcome] at traced concluded states
  have allDone : final.trace = done := traced
  rw [allDone]
  exact ⟨concluded, states⟩

/-- Runs of agents with the same settings stay together as long as their calls give the same. -/
theorem executes_together
    {other : Agent σ' μ'} (settings : SameSettings agent other)
    (otherId : String) {otherComputer : σ'} {otherModel : μ'}
    {before later : Trace} {entry : Entry}
    (ran : agent.execute runId task computer model = (result, final))
    (split : final.trace = before ++ entry :: later)
    (same : other.returns before (otherComputer, otherModel) =
      agent.returns before (computer, model)) :
    before ++ [entry] <+:
      (other.execute otherId task otherComputer otherModel).2.trace := by
  obtain ⟨dialogue, held⟩ := exists_dialogue_of_run agent.requestFor
    agent.config.maxIterations runId task
  have added :
      ((dialogue.held agent).run ⟨[], computer, model⟩).2.trace =
        [] ++ (before ++ entry :: later) := by
    rw [← held σ μ agent rfl rfl, ← split]
    exact congrArg (fun outcome => outcome.2.trace) ran
  have together := held_together settings.cancellation dialogue
    ⟨[], computer, model⟩ ⟨[], otherComputer, otherModel⟩ rfl added same
  rw [execute_relabelled other runId otherId]
  rw [← held σ' μ' other settings.requestFor
    (congrArg Config.maxIterations settings.config)] at together
  exact together

/-- A run fails exactly when a call of it fails, with the failure of that call, which is the last
entry of the trace. Its trace has all its calls. Partners that give the same to the calls before an
entry lead to the same entry, so that a failing call is reached in the same way in the run in which
it succeeds. Where no call can fail, neither the inputs of the tool uses nor the budget make a run
fail. -/
theorem failure_of_execute
    (ran : agent.execute runId task computer model = (result, final)) :
    (∀ failure, result = .error failure ↔
      ∃ index, agent.FailsAt final.trace (computer, model) index failure) ∧
    (∀ index failure, agent.FailsAt final.trace (computer, model) index failure →
      index + 1 = final.trace.length) ∧
    agent.statesAfter final.trace (computer, model) = (final.computer, final.model) ∧
    (∀ before entry later, final.trace = before ++ entry :: later →
      ∀ (σ' μ' : Type) (other : Agent σ' μ') (otherId : String)
        (otherComputer : σ') (otherModel : μ'),
        SameSettings agent other →
        other.returns before (otherComputer, otherModel) =
          agent.returns before (computer, model) →
        before ++ [entry] <+:
          (other.execute otherId task otherComputer otherModel).2.trace) ∧
    ((∀ call states, ∃ value, (agent.answer call states).1 = .ok value) →
      ∃ report, result = .ok report) := by
  obtain ⟨concluded, states⟩ := concluded_of_execute ran
  refine ⟨?_, ?_, states, ?_, ?_⟩
  · intro failure
    constructor
    · rintro rfl
      exact concluded.exists_failing
    · rintro ⟨index, last, found, fails⟩
      exact (concluded.of_failing found fails).1
  · rintro index failure ⟨last, found, fails⟩
    rw [← agent.length_returns final.trace (computer, model)]
    exact (concluded.of_failing found fails).2
  · intro before entry later split σ' μ' other otherId otherComputer otherModel
      settings same
    exact executes_together settings otherId ran split same
  · intro reliable
    cases result with
    | ok report => exact ⟨report, rfl⟩
    | error failure =>
        obtain ⟨index, last, found, fails⟩ := concluded.exists_failing
        obtain ⟨call, states, rfl⟩ := answer_of_mem_returns (List.mem_of_getElem? found)
        obtain ⟨value, given⟩ := reliable call states
        rw [Returned.failure?, given] at fails
        cases fails

/-- The screens of the rehearsal, when the picture for the input that is no action is taken so. -/
def screensWith (second : Except Failure String) : Rehearsal.Screens where
  screenshots := [none, some second]
  observations := []
  numbered := 0

def rehearsedWith (second : Except Failure String) :
    Except Failure Report × Progress Rehearsal.Screens Rehearsal.Replies :=
  rehearsedAgent.execute "run" "task" (screensWith second) rehearsedReplies

/-- Partners that never fail, and a model that never names an action. -/
def idlingAgent : Agent Unit Unit where
  computer :=
    { dimensions := ⟨1280, 800⟩
      screenshot := fun _ => (.ok "screen", ())
      execute := fun _ _ => (.ok (.screenshot "screen"), ()) }
  model := { reply := fun _ _ => (.ok (.assistant [.toolUse "a" "computer" .null]), ()) }
  config := { Config.ofEnvironment fun _ => none with maxIterations := 2 }
  cancellation := .never

def idling : Except Failure Report × Progress Unit Unit :=
  idlingAgent.execute "run" "task" () ()

/-- The picture for the second tool use of a turn fails; where it does not, the run comes to it in
the same way and goes on. -/
theorem failure_of_rehearsed :
    (rehearsedWith (.error (.io "lost"))).1 = .error (.io "lost") ∧
    (∃ index,
      rehearsedAgent.FailsAt (rehearsedWith (.error (.io "lost"))).2.trace
        (screensWith (.error (.io "lost")), rehearsedReplies) index (.io "lost") ∧
      index + 1 = (rehearsedWith (.error (.io "lost"))).2.trace.length) ∧
    (rehearsedWith (.error (.io "lost"))).2.trace <+:
      (rehearsedWith (.ok "found")).2.trace ∧
    ∃ report, idling.1 = .ok report := by
  have failed : (rehearsedWith (.error (.io "lost"))).1 = .error (.io "lost") := by
    with_unfolding_all rfl
  have ran :
      rehearsedWith (.error (.io "lost")) =
        (.error (.io "lost"), (rehearsedWith (.error (.io "lost"))).2) :=
    Prod.ext failed rfl
  have idlingRan : idling = (idling.1, idling.2) := Prod.ext rfl rfl
  obtain ⟨iff, last, _, together, _⟩ := failure_of_execute ran
  obtain ⟨index, fails⟩ := (iff (.io "lost")).mp rfl
  have split :
      (rehearsedWith (.error (.io "lost"))).2.trace =
        (rehearsedWith (.error (.io "lost"))).2.trace.take 7 ++ [.screenshot] := by
    with_unfolding_all rfl
  have same :
      rehearsedAgent.returns ((rehearsedWith (.error (.io "lost"))).2.trace.take 7)
          (screensWith (.ok "found"), rehearsedReplies) =
        rehearsedAgent.returns ((rehearsedWith (.error (.io "lost"))).2.trace.take 7)
          (screensWith (.error (.io "lost")), rehearsedReplies) := by
    with_unfolding_all rfl
  have reached := together _ _ _ split _ _ rehearsedAgent "run" _ _ ⟨rfl, rfl, rfl⟩ same
  rw [← split] at reached
  obtain ⟨_, _, _, _, reliable⟩ := failure_of_execute idlingRan
  refine ⟨failed, ⟨index, fails, last index _ fails⟩, reached, reliable ?_⟩
  intro call states
  cases call with
  | screenshot => exact ⟨_, rfl⟩
  | execute action => exact ⟨_, rfl⟩
  | request asked => exact ⟨_, rfl⟩

end Agent

end DesktopAgent
