import DesktopAgent.Proofs.Display.Operation

/-!
What an executor runs for actions.

Carrying out actions comes down to running their input commands and captures one after the other,
whether they succeed or not.
-/

namespace DesktopAgent.Display

variable {τ : Type}

/-- How a run ended. -/
inductive Outcome where
  | succeeded
  | failed
  | unstarted
deriving DecidableEq, Repr

def Outcome.ofRun : Except SpawnProblem Output → Outcome
  | .ok output => if output.success then .succeeded else .failed
  | .error _ => .unstarted

/-- A tool whose runs end as the state of the programs says, and leave a trace in it even when they
cannot be started. -/
structure Programs.Follows
    (programs : Programs τ) (name : String) (next : τ → Outcome) (trace : List String → τ → τ) :
    Prop where
  refuses : ∀ (arguments : List String) (host : Host τ), ∃ reason,
    programs.refusal (name :: arguments) host =
      if next host.scene = .unstarted then some (reason, trace arguments host.scene) else none
  acts : ∀ (arguments : List String) (display : Option String) (host : Host τ),
    (programs.effect ⟨name :: arguments, display⟩ host).scene = trace arguments host.scene ∧
      ((programs.effect ⟨name :: arguments, display⟩ host).output.success = true ↔
        next host.scene = .succeeded)

/-- A run of such a tool ends as it should and leaves its trace; one whose command holds a zero byte
is not started and leaves none. -/
theorem Programs.Follows.runCommand
    {programs : Programs τ} {name : String} {next : τ → Outcome} {trace : List String → τ → τ}
    (follows : programs.Follows name next trace) (arguments : List String)
    (display : Option String) (host : Host τ) :
    (.ofRun (host.runCommand programs ⟨name :: arguments, display⟩).1 = Outcome.unstarted ∧
      (host.runCommand programs ⟨name :: arguments, display⟩).2.scene = host.scene) ∨
    (.ofRun (host.runCommand programs ⟨name :: arguments, display⟩).1 = next host.scene ∧
      (host.runCommand programs ⟨name :: arguments, display⟩).2.scene =
        trace arguments host.scene) := by
  obtain ⟨reason, refusal⟩ := follows.refuses arguments host
  obtain ⟨scene, succeeds⟩ := follows.acts arguments display host
  unfold Host.runCommand
  generalize attempted : host.attempt programs ⟨name :: arguments, display⟩ = attempt
  obtain ⟨started, before⟩ := attempt
  rcases Host.attempt_cases attempted with ⟨problem, _, rfl, left, rfl⟩ | ⟨rfl, rfl, _, _, free⟩
  · rcases left with rfl | ⟨_, refused⟩
    · exact Or.inl ⟨rfl, rfl⟩
    · rw [refusal] at refused
      by_cases unstarted : next host.scene = .unstarted
      · rw [if_pos unstarted] at refused
        cases refused
        exact Or.inr ⟨unstarted.symm, rfl⟩
      · rw [if_neg unstarted] at refused
        cases refused
  · refine Or.inr ⟨?_, scene⟩
    rw [refusal] at free
    change (if (programs.effect ⟨name :: arguments, display⟩ before).output.success = true then
      Outcome.succeeded else .failed) = _
    cases ends : next before.scene with
    | succeeded => rw [if_pos (succeeds.mpr ends)]
    | failed =>
        rw [ends] at succeeds
        rw [if_neg fun success => by cases succeeds.mp success]
    | unstarted =>
        rw [if_pos ends] at free
        cases free

/-- What an executor runs when it carries out an action. -/
inductive Task where
  | input (arguments : List String)
  | capture
deriving DecidableEq, Repr

/-- What is run for an action, in order. A capture is made when the display has settled. -/
def tasksOf (typingDelayMs : UInt64) : Action → List Task
  | .cursorPosition => [.input locateArguments]
  | action => (commands typingDelayMs action).map .input ++ [.capture]

section

variable (programs : Programs τ) (config : Config) (session : Session)

def Task.invocation : Task → Invocation
  | .input arguments => session.invocation config.input arguments
  | .capture => session.invocation config.capture ["-o", session.picture]

/-- The machine on which a task is run. Before a capture the display settles. -/
def Task.prepare : Task → Host τ → Host τ
  | .input _, host => host
  | .capture, host => host.pause programs config.actionSettle

/-- Runs tasks one after the other and tells how each run ended. -/
def runTasks : List Task → Host τ → List (Task × Outcome) × Host τ
  | [], host => ([], host)
  | task :: rest, host =>
      let (result, host) := (task.prepare programs config host).runCommand programs
        (task.invocation config session)
      let (runs, host) := runTasks rest host
      ((task, Outcome.ofRun result) :: runs, host)

/-- The machine when the input commands of an action have been run and the display has settled. -/
def settled (action : Action) (host : Host τ) : Host τ :=
  (runTasks programs config session ((commands config.typingDelayMs action).map .input)
    host).2.pause programs config.actionSettle

end

variable {programs : Programs τ} {config : Config} {session : Session}

/-- While the display settles no file changes and nothing is run. -/
theorem Task.prepare_keeps
    (programs : Programs τ) (config : Config) (task : Task) (host : Host τ) :
    (task.prepare programs config host).files = host.files ∧
      (task.prepare programs config host).ran = host.ran := by
  cases task with
  | input arguments => exact ⟨rfl, rfl⟩
  | capture => exact ⟨rfl, rfl⟩

theorem runTasks_append (first second : List Task) :
    ∀ host : Host τ, runTasks programs config session (first ++ second) host =
      ((runTasks programs config session first host).1 ++
          (runTasks programs config session second
            (runTasks programs config session first host).2).1,
        (runTasks programs config session second
          (runTasks programs config session first host).2).2) := by
  induction first with
  | nil => exact fun _ => rfl
  | cons task rest inductionHypothesis =>
      intro host
      simp only [List.cons_append, runTasks]
      rw [inductionHypothesis]

/-- No task is lost or added, and none changes its place. -/
theorem runTasks_tasks (tasks : List Task) :
    ∀ host : Host τ, (runTasks programs config session tasks host).1.map (·.1) = tasks := by
  induction tasks with
  | nil => exact fun _ => rfl
  | cons task rest inductionHypothesis =>
      intro host
      exact congrArg (task :: ·) (inductionHypothesis _)

theorem runTasks_inputs (commands : List (List String)) :
    ∀ host : Host τ, (runTasks programs config session (commands.map .input) host).2 =
      Desk.inputAll programs config session commands host := by
  induction commands with
  | nil => exact fun _ => rfl
  | cons arguments rest inductionHypothesis =>
      intro host
      have first : (Desk.input programs config session arguments host).2 =
          (host.runCommand programs (session.invocation config.input arguments)).2 :=
        Desk.input_host arguments host
      change (runTasks programs config session (rest.map .input)
        (host.runCommand programs (session.invocation config.input arguments)).2).2 =
          Desk.inputAll programs config session rest
            (Desk.input programs config session arguments host).2
      rw [inductionHypothesis, first]

theorem tasksOf_of_ne {typingDelayMs : UInt64} {action : Action}
    (shows : action ≠ .cursorPosition) :
    tasksOf typingDelayMs action =
      (commands typingDelayMs action).map .input ++ [.capture] := by
  cases action
  case cursorPosition => exact absurd rfl shows
  all_goals rfl

/-- An action does to the machine what its tasks do. -/
theorem Desk.executeIn_tasks (action : Action) (host : Host τ) :
    (Desk.executeIn programs config session action host).2 =
      (runTasks programs config session (tasksOf config.typingDelayMs action) host).2 := by
  rw [Desk.executeIn_host]
  by_cases asks : action = .cursorPosition
  · rw [if_pos asks, asks, Desk.input_host]
    rfl
  · rw [if_neg asks, tasksOf_of_ne asks, runTasks_append, runTasks_inputs, Desk.capture_host]
    rfl

/-- Actions do to the machine what their tasks do. -/
theorem Desk.performAll_tasks (actions : List Action) :
    ∀ host : Host τ,
      (Desk.performAll programs config ⟨some session, host⟩ (actions.map .execute)).2 =
        ⟨some session, (runTasks programs config session
          (actions.flatMap (tasksOf config.typingDelayMs)) host).2⟩ := by
  induction actions with
  | nil => exact fun _ => rfl
  | cons action rest inductionHypothesis =>
      intro host
      have first : (Desk.executeIn programs config session action host).2 =
          (runTasks programs config session
            (tasksOf config.typingDelayMs action) host).2 :=
        Desk.executeIn_tasks action host
      have others := inductionHypothesis
        (Desk.executeIn programs config session action host).2
      rw [List.flatMap_cons, runTasks_append, ← first]
      exact others

end DesktopAgent.Display
