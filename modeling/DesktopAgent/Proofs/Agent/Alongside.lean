import DesktopAgent.Proofs.Agent.Replay

/-!
Two runs side by side.

Where two runs stand side by side, the same is seen of both and they have asked equally often; what
they asked may differ. Stretches that go alongside keep two runs so and end in the same way, with
values that agree. There is one rule for each way to build a stretch, and the parts of a run that do
not look at the conversation go alongside themselves.
-/

namespace DesktopAgent

theorem Trace.events_visible (trace : Trace) : trace.visible.events = trace.events := by
  induction trace with
  | nil => rfl
  | cons entry later inductionHypothesis =>
      cases entry with
      | request asked => exact inductionHypothesis
      | screenshot => exact inductionHypothesis
      | execute action => exact inductionHypothesis
      | event told => exact congrArg (told :: ·) inductionHypothesis

/-- Whether the moment has come is a matter of what is seen and of the number of requests. -/
theorem Cancellation.isDue_congr
    (cancellation : Cancellation) {first second : Trace}
    (visible : first.visible = second.visible)
    (requests : first.requests.length = second.requests.length) :
    cancellation.isDue first = cancellation.isDue second := by
  cases cancellation with
  | never => rfl
  | before => rfl
  | onEvent index =>
      have events : first.events = second.events := by
        rw [← first.events_visible, visible, second.events_visible]
      simp only [isDue, events]
  | onRequest index => simp only [isDue, requests]

namespace Agent

variable {σ μ α β : Type}

/-- Two runs in which the same is seen: the computer has come to the same state, and the models have
come to states that are alike. -/
structure SideBySide
    (alike : μ → μ → Prop) (first second : Progress σ μ) : Prop where
  computer : first.computer = second.computer
  model : alike first.model second.model
  visible : first.trace.visible = second.trace.visible
  requests : first.trace.requests.length = second.trace.requests.length

/-- Results that are the same failure, or values that agree. -/
inductive ResultsAgree (agree : α → α → Prop) :
    Except Failure α → Except Failure α → Prop
  | values {first second : α} :
      agree first second → ResultsAgree agree (.ok first) (.ok second)
  | failures (failure : Failure) :
      ResultsAgree agree (.error failure) (.error failure)

namespace ResultsAgree

theorem of_eq {result otherResult : Except Failure α} (same : result = otherResult) :
    ResultsAgree Eq result otherResult := by
  subst same
  cases result with
  | ok value => exact .values rfl
  | error failure => exact .failures failure

/-- Results that are the same after their values are changed. -/
theorem of_map
    {change : α → β} {result otherResult : Except Failure α}
    (results : ResultsAgree Eq (result.map change) (otherResult.map change)) :
    ResultsAgree (fun value otherValue => change value = change otherValue)
      result otherResult := by
  cases result with
  | error failure =>
      cases otherResult with
      | error otherFailure =>
          cases results
          exact .failures failure
      | ok otherValue => cases results
  | ok value =>
      cases otherResult with
      | error otherFailure => cases results
      | ok otherValue =>
          cases results with
          | values same => exact .values same

theorem map_eq
    {change : α → β} {result otherResult : Except Failure α}
    (results : ResultsAgree (fun value otherValue => change value = change otherValue)
      result otherResult) :
    result.map change = otherResult.map change := by
  cases results with
  | values same => exact congrArg Except.ok same
  | failures failure => rfl

end ResultsAgree

/-- From runs side by side the stretches lead to runs side by side, and their results agree. -/
def Alongside
    (alike : μ → μ → Prop) (agree : α → α → Prop) (first second : Stretch σ μ α) : Prop :=
  ∀ progress other, SideBySide alike progress other →
    ResultsAgree agree (first.run progress).1 (second.run other).1 ∧
      SideBySide alike (first.run progress).2 (second.run other).2

theorem run_map
    (change : α → β) (stretch : Stretch σ μ α) (progress : Progress σ μ) :
    (change <$> stretch).run progress =
      ((stretch.run progress).1.map change, (stretch.run progress).2) := by
  rw [map_eq_pure_bind, run_bind]
  rcases stretch.run progress with ⟨failure | value, after⟩
  · rfl
  · rfl

namespace Alongside

variable {alike : μ → μ → Prop} {agree : α → α → Prop}

theorem pure
    {first second : α} (agrees : agree first second) :
    Alongside alike agree (pure first : Stretch σ μ α) (pure second) :=
  fun _ _ sideBySide => ⟨.values agrees, sideBySide⟩

theorem bind
    {agreeAfter : β → β → Prop}
    {first second : Stretch σ μ α} {next nextOther : α → Stretch σ μ β}
    (begins : Alongside alike agree first second)
    (goesOn : ∀ value otherValue, agree value otherValue →
      Alongside alike agreeAfter (next value) (nextOther otherValue)) :
    Alongside alike agreeAfter (first >>= next) (second >>= nextOther) := by
  intro progress other sideBySide
  have begun := begins progress other sideBySide
  rw [run_bind, run_bind]
  revert begun
  rcases first.run progress with ⟨result, after⟩
  rcases second.run other with ⟨otherResult, otherAfter⟩
  rintro ⟨results, still⟩
  cases results with
  | failures failure => exact ⟨.failures failure, still⟩
  | values agrees => exact goesOn _ _ agrees after otherAfter still

/-- Stretches that are the same after their values are changed. -/
theorem of_map
    {change : α → β} {first second : Stretch σ μ α}
    (alongside : Alongside alike Eq (change <$> first) (change <$> second)) :
    Alongside alike (fun value otherValue => change value = change otherValue)
      first second := by
  intro progress other sideBySide
  obtain ⟨results, still⟩ := alongside progress other sideBySide
  rw [run_map, run_map] at results still
  exact ⟨results.of_map, still⟩

/-- Both note the same. -/
theorem note (entry : Entry) :
    Alongside alike Eq (Agent.note entry : Stretch σ μ Unit) (Agent.note entry) := by
  intro progress other sideBySide
  refine ⟨.values rfl, sideBySide.computer, sideBySide.model, ?_, ?_⟩
  · change (progress.trace ++ [entry]).visible = (other.trace ++ [entry]).visible
    rw [Trace.visible_append, Trace.visible_append, sideBySide.visible]
  · change (Trace.requests (progress.trace ++ [entry])).length =
      (Trace.requests (other.trace ++ [entry])).length
    rw [Trace.requests_append, Trace.requests_append, List.length_append,
      List.length_append, sideBySide.requests]

/-- Each notes a request of its own. -/
theorem note_request (first second : Request) :
    Alongside alike Eq (Agent.note (.request first) : Stretch σ μ Unit)
      (Agent.note (.request second)) := by
  intro progress other sideBySide
  refine ⟨.values rfl, sideBySide.computer, sideBySide.model, ?_, ?_⟩
  · change (progress.trace ++ [Entry.request first]).visible =
      (other.trace ++ [Entry.request second]).visible
    rw [Trace.visible_append, Trace.visible_append, sideBySide.visible]
    rfl
  · change (Trace.requests (progress.trace ++ [Entry.request first])).length =
      (Trace.requests (other.trace ++ [Entry.request second])).length
    rw [Trace.requests_append, Trace.requests_append, List.length_append,
      List.length_append, sideBySide.requests]
    rfl

theorem emit (event : Event) :
    Alongside alike Eq (Agent.emit event : Stretch σ μ Unit) (Agent.emit event) :=
  note _

theorem callComputer (call : σ → Except Failure α × σ) :
    Alongside alike Eq (Agent.callComputer call : Stretch σ μ α)
      (Agent.callComputer call) := by
  intro progress other sideBySide
  rw [run_callComputer, run_callComputer, ← sideBySide.computer]
  exact ⟨.of_eq rfl, rfl, sideBySide.model, sideBySide.visible, sideBySide.requests⟩

theorem callModel
    {first second : μ → Except Failure α × μ}
    (echoes : ∀ model otherModel, alike model otherModel →
      ResultsAgree agree (first model).1 (second otherModel).1 ∧
        alike (first model).2 (second otherModel).2) :
    Alongside alike agree (Agent.callModel first : Stretch σ μ α)
      (Agent.callModel second) := by
  intro progress other sideBySide
  obtain ⟨results, still⟩ := echoes _ _ sideBySide.model
  rw [run_callModel, run_callModel]
  exact ⟨results, sideBySide.computer, still, sideBySide.visible, sideBySide.requests⟩

variable (agent : Agent σ μ)

theorem isCancelled : Alongside alike Eq agent.isCancelled agent.isCancelled := by
  intro progress other sideBySide
  have same := agent.cancellation.isDue_congr sideBySide.visible sideBySide.requests
  exact ⟨.values same, sideBySide⟩

theorem takeScreenshot :
    Alongside alike Eq agent.takeScreenshot agent.takeScreenshot := by
  apply (note _).bind
  rintro _ _ rfl
  apply (callComputer agent.computer.screenshot).bind
  rintro base64 _ rfl
  apply (emit (.screenshot base64)).bind
  rintro _ _ rfl
  exact pure rfl

theorem perform (action : Action) :
    Alongside alike Eq (agent.perform action) (agent.perform action) := by
  apply (note _).bind
  rintro _ _ rfl
  exact callComputer (agent.computer.execute action)

theorem showObservation (observation : Observation) :
    Alongside alike Eq (Agent.showObservation observation : Stretch σ μ (List Block))
      (Agent.showObservation observation) := by
  cases observation with
  | screenshot base64 =>
      apply (emit (.screenshot base64)).bind
      rintro _ _ rfl
      exact pure rfl
  | cursorPosition report => exact pure rfl

theorem runTool (id : String) (input : Json) :
    Alongside alike Eq (agent.runTool id input) (agent.runTool id input) := by
  unfold Agent.runTool
  cases Action.ofInput input with
  | ok action =>
      apply (emit (.action action)).bind
      rintro _ _ rfl
      apply (perform agent action).bind
      rintro observation _ rfl
      apply (showObservation observation).bind
      rintro content _ rfl
      exact pure rfl
  | error error =>
      apply (takeScreenshot agent).bind
      rintro base64 _ rfl
      exact pure rfl

theorem act (blocks : List Block) :
    Alongside alike Eq (agent.act blocks) (agent.act blocks) := by
  induction blocks with
  | nil => exact pure rfl
  | cons block blocks inductionHypothesis =>
      cases block with
      | text words =>
          apply (emit (.text words)).bind
          rintro _ _ rfl
          exact inductionHypothesis
      | toolUse id name input =>
          apply (runTool agent id input).bind
          rintro result _ rfl
          apply inductionHypothesis.bind
          rintro results _ rfl
          exact pure rfl
      | image source => exact inductionHypothesis
      | toolResult id content isError => exact inductionHypothesis
      | other raw => exact inductionHypothesis

end Alongside

end Agent

end DesktopAgent
