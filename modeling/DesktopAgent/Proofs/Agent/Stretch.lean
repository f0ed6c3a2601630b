import DesktopAgent.Agent.Run

/-!
What a stretch of a run does: how it ends, which entries it adds to the trace, and where it leaves
the partners.

A stretch never takes back what is in the trace, so a goal speaks of the added entries only. There
is one rule for each way to build a stretch, and one statement for each call of an agent; what is
said of longer stretches is put together from these.
-/

namespace DesktopAgent.Agent

variable {σ μ α β : Type}

theorem run_bind
    (first : Stretch σ μ α) (next : α → Stretch σ μ β)
    (progress : Progress σ μ) :
    (first >>= next).run progress =
      match first.run progress with
      | (.ok value, after) => (next value).run after
      | (.error failure, after) => (.error failure, after) := by
  change (match first.run progress with
    | (result, after) => ExceptT.bindCont next result after) = _
  rcases first.run progress with ⟨_ | _, after⟩ <;> rfl

theorem run_get (progress : Progress σ μ) :
    (get : Stretch σ μ (Progress σ μ)).run progress = (.ok progress, progress) :=
  rfl

/-- Calling the computer moves the computer and nothing else. -/
theorem run_callComputer
    (call : σ → Except Failure α × σ) (progress : Progress σ μ) :
    (callComputer call : Stretch σ μ α).run progress =
      ((call progress.computer).1,
        { progress with computer := (call progress.computer).2 }) := by
  rw [callComputer, run_bind, run_get]
  dsimp only
  rcases call progress.computer with ⟨_ | _, computer⟩ <;> rfl

/-- Calling the model moves the model and nothing else. -/
theorem run_callModel
    (call : μ → Except Failure α × μ) (progress : Progress σ μ) :
    (callModel call : Stretch σ μ α).run progress =
      ((call progress.model).1,
        { progress with model := (call progress.model).2 }) := by
  rw [callModel, run_bind, run_get]
  dsimp only
  rcases call progress.model with ⟨_ | _, model⟩ <;> rfl

/-- What is asked of a stretch: of its result, of the entries it adds, and of where it ends. -/
abbrev Goal (σ μ α : Type) :=
  Except Failure α → Trace → Progress σ μ → Prop

/-- From `progress` the stretch adds entries to the trace and meets the goal. -/
def Meets
    (stretch : Stretch σ μ α) (progress : Progress σ μ)
    (goal : Goal σ μ α) : Prop :=
  ∃ done,
    (stretch.run progress).2.trace = progress.trace ++ done ∧
      goal (stretch.run progress).1 done (stretch.run progress).2

namespace Meets

variable {progress : Progress σ μ}

theorem mono
    {stretch : Stretch σ μ α} {strong weak : Goal σ μ α}
    (meets : Meets stretch progress strong)
    (weaken : ∀ result done after,
      strong result done after → weak result done after) :
    Meets stretch progress weak := by
  obtain ⟨done, traced, holds⟩ := meets
  exact ⟨done, traced, weaken _ _ _ holds⟩

theorem pure
    {goal : Goal σ μ α} {value : α}
    (holds : goal (.ok value) [] progress) :
    Meets (pure value) progress goal :=
  ⟨[], (List.append_nil progress.trace).symm, holds⟩

/-- A stretch and the one that goes on with its value. A failure of the first ends both. -/
theorem bind
    {first : Stretch σ μ α} {next : α → Stretch σ μ β}
    {middle : Goal σ μ α} {goal : Goal σ μ β}
    (meets : Meets first progress middle)
    (goesOn : ∀ value done after, middle (.ok value) done after →
      Meets (next value) after fun result later final =>
        goal result (done ++ later) final)
    (fails : ∀ failure done after, middle (.error failure) done after →
      goal (.error failure) done after) :
    Meets (first >>= next) progress goal := by
  obtain ⟨done, traced, holds⟩ := meets
  unfold Meets
  rw [run_bind]
  cases ran : first.run progress with
  | mk result after =>
      rw [ran] at traced holds
      cases result with
      | error failure =>
          exact ⟨done, traced, fails failure done after holds⟩
      | ok value =>
          obtain ⟨later, tracedLater, met⟩ :=
            goesOn value done after holds
          refine ⟨done ++ later, ?_, met⟩
          rw [tracedLater, traced, List.append_assoc]

theorem note
    {entry : Entry} {goal : Goal σ μ Unit}
    (holds : goal (.ok ()) [entry]
      { progress with trace := progress.trace ++ [entry] }) :
    Meets (Agent.note entry) progress goal :=
  ⟨[entry], rfl, holds⟩

/-- Noting an entry and going on. -/
theorem note_bind
    {entry : Entry} {next : Unit → Stretch σ μ α}
    {goal : Goal σ μ α}
    (meets :
      Meets (next ()) { progress with trace := progress.trace ++ [entry] }
        fun result later final => goal result (entry :: later) final) :
    Meets (Agent.note entry >>= next) progress goal := by
  obtain ⟨later, traced, holds⟩ := meets
  refine ⟨entry :: later, ?_, holds⟩
  rw [run_bind]
  exact traced.trans (List.append_cons _ entry later).symm

theorem callComputer
    {call : σ → Except Failure α × σ} {goal : Goal σ μ α}
    (holds : goal (call progress.computer).1 []
      { progress with computer := (call progress.computer).2 }) :
    Meets (callComputer call) progress goal := by
  unfold Meets
  rw [run_callComputer]
  exact ⟨[], (List.append_nil progress.trace).symm, holds⟩

theorem callModel
    {call : μ → Except Failure α × μ} {goal : Goal σ μ α}
    (holds : goal (call progress.model).1 []
      { progress with model := (call progress.model).2 }) :
    Meets (callModel call) progress goal := by
  unfold Meets
  rw [run_callModel]
  exact ⟨[], (List.append_nil progress.trace).symm, holds⟩

end Meets

end DesktopAgent.Agent
