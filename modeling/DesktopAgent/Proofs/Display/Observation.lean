import DesktopAgent.Proofs.Display.Capture
import DesktopAgent.Proofs.Display.Lifecycle

/-!
What carrying out an action lets see, and when it fails.

The input commands of an action are run one after the other, however they end, and one capture comes
last; whether there is a picture is a matter of that capture alone. Asking for the pointer never
fails and takes no picture.
-/

namespace DesktopAgent.Display

open DesktopAgent.Rehearsal (Script Stage Tool)
open DesktopAgent.Text

variable {τ σ : Type} {programs : Programs τ} {others : Programs σ} {config : Config}
variable {session : Session}

/-- The tasks of the runs that could be started. -/
def started (runs : List (Task × Outcome)) : List Task :=
  (runs.filter fun run => run.2 ≠ .unstarted).map (·.1)

theorem started_cons (run : Task × Outcome) (rest : List (Task × Outcome)) :
    started (run :: rest) = started [run] ++ started rest := by
  unfold started
  rw [← List.map_append, ← List.filter_append]
  rfl

theorem runCommand_ran (task : Task) (host : Host τ) :
    ((task.prepare programs config host).runCommand programs
        (task.invocation config session)).2.ran =
      host.ran ++ (started [(task, .ofRun ((task.prepare programs config host).runCommand programs
        (task.invocation config session)).1)]).map (Task.invocation config session) := by
  rw [← (task.prepare_keeps programs config host).2]
  generalize task.prepare programs config host = host
  generalize ran : host.runCommand programs (task.invocation config session) = run
  obtain ⟨result, after⟩ := run
  rcases Host.runCommand_cases ran with ⟨problem, scene, rfl, _, rfl⟩ | ⟨rfl, rfl⟩
  · exact (List.append_nil host.ran).symm
  · cases success : (programs.effect (task.invocation config session) host).output.success with
    | false => simp [started, Outcome.ofRun, success]
    | true => simp [started, Outcome.ofRun, success]

theorem runTasks_ran (tasks : List Task) :
    ∀ host : Host τ, (runTasks programs config session tasks host).2.ran =
      host.ran ++ (started (runTasks programs config session tasks host).1).map
        (Task.invocation config session) := by
  induction tasks with
  | nil => exact fun host => (List.append_nil host.ran).symm
  | cons task rest inductionHypothesis =>
      intro host
      have later := inductionHypothesis ((task.prepare programs config host).runCommand programs
        (task.invocation config session)).2
      rw [runCommand_ran, List.append_assoc, ← List.map_append, ← started_cons] at later
      exact later

/-- Machines between which input commands, however they end on either, and pauses keep a likeness
under which a capture takes a picture on both or on neither. -/
structure CapturesAlike (programs : Programs τ) (others : Programs σ) (config : Config)
    (session : Session) (alike : Host τ → Host σ → Prop) : Prop where
  input : ∀ (arguments : List String) (host : Host τ) (other : Host σ),
    IsInput config arguments → alike host other →
      alike (host.runCommand programs (session.invocation config.input arguments)).2
        (other.runCommand others (session.invocation config.input arguments)).2
  pause : ∀ (span : Span) (host : Host τ) (other : Host σ), alike host other →
    alike (host.pause programs span) (other.pause others span)
  capture : ∀ (host : Host τ) (other : Host σ), alike host other →
    ((∃ bytes, Takes programs config session host bytes) ↔
      ∃ bytes, Takes others config session other bytes)

theorem CapturesAlike.inputs
    {alike : Host τ → Host σ → Prop}
    (captures : CapturesAlike programs others config session alike)
    (commands : List (List String)) (known : ∀ arguments ∈ commands, IsInput config arguments) :
    ∀ (host : Host τ) (other : Host σ), alike host other →
      alike (runTasks programs config session (commands.map .input) host).2
        (runTasks others config session (commands.map .input) other).2 := by
  induction commands with
  | nil => exact fun _ _ begins => begins
  | cons arguments rest inductionHypothesis =>
      intro host other begins
      have first := captures.input arguments host other (known arguments List.mem_cons_self) begins
      exact inductionHypothesis
        (fun later member => known later (List.mem_cons_of_mem arguments member)) _ _ first

theorem CapturesAlike.settled
    {alike : Host τ → Host σ → Prop}
    (captures : CapturesAlike programs others config session alike) (action : Action)
    {host : Host τ} {other : Host σ} (begins : alike host other) :
    alike (Display.settled programs config session action host)
      (Display.settled others config session action other) :=
  captures.pause config.actionSettle _ _ (captures.inputs (commands config.typingDelayMs action)
    (fun _ member => Or.inr ⟨action, member⟩) host other begins)

/-! ## Results -/

/-- What is reported of the pointer: the output of a run that succeeded, and otherwise nothing. -/
def report : Except SpawnProblem Output → String
  | .ok output => if output.success then trimmed (Utf8.decode output.stdout) else ""
  | .error _ => ""

theorem Desk.executeIn_cursorPosition (host : Host τ) :
    (executeIn programs config session .cursorPosition host).1 =
      .ok (.cursorPosition (report (host.runCommand programs
        (session.invocation config.input locateArguments)).1)) := by
  unfold executeIn input Session.run
  obtain ⟨result, after⟩ := host.runCommand programs
    (session.invocation config.input locateArguments)
  cases result with
  | error problem => rfl
  | ok output =>
      simp only [Except.map, CommandOutput.ofOutput, report]
      cases output.success with
      | false => rfl
      | true => rfl

variable (programs config session) in
/-- An action that shows the screen gives a picture when the capture after its input commands takes
one, and otherwise fails for want of a picture. -/
theorem Desk.exists_executeIn_iff
    {action : Action} (shows : action ≠ .cursorPosition) (host : Host τ) :
    ((∃ base64, (executeIn programs config session action host).1 = .ok (.screenshot base64)) ↔
      ∃ bytes, Takes programs config session (settled programs config session action host)
        bytes) ∧
    ((∃ reason, (executeIn programs config session action host).1 = .error (.screenshot reason)) ↔
      ¬ ∃ bytes, Takes programs config session (settled programs config session action host)
        bytes) := by
  rw [executeIn_of_ne shows]
  rcases capture_cases programs config session (settled programs config session action host) with
    ⟨bytes, takes, given⟩ | ⟨problem, misses, given⟩
  · rw [given]
    exact ⟨⟨fun _ => ⟨bytes, takes⟩, fun _ => ⟨Base64.encode bytes, rfl⟩⟩,
      ⟨fun ⟨_, fails⟩ => by (cases fails), fun missed => absurd ⟨bytes, takes⟩ missed⟩⟩
  · have missed : ¬ ∃ bytes, Takes programs config session
        (settled programs config session action host) bytes :=
      fun ⟨bytes, takes⟩ => misses.not_takes bytes takes
    rw [given]
    exact ⟨⟨fun ⟨_, shown⟩ => by (cases shown), fun taken => absurd taken missed⟩,
      ⟨fun _ => missed, fun _ => ⟨problem.message, rfl⟩⟩⟩

/-- What carrying out an action comes to. -/
structure Observed (programs : Programs τ) (config : Config) (session : Session) (desk : Desk τ)
    (action : Action) : Prop where
  machine : (Desk.execute programs config action desk).2 =
    ⟨some session, (runTasks programs config session
      (tasksOf config.typingDelayMs action) desk.host).2⟩
  tasks : (runTasks programs config session
    (tasksOf config.typingDelayMs action) desk.host).1.map (·.1) =
      tasksOf config.typingDelayMs action
  ran : (Desk.execute programs config action desk).2.host.ran =
    desk.host.ran ++ (started (runTasks programs config session
      (tasksOf config.typingDelayMs action) desk.host).1).map (Task.invocation config session)
  pointer : action = .cursorPosition →
    tasksOf config.typingDelayMs action = [.input ["getmouselocation"]] ∧
    (Desk.execute programs config action desk).1 =
      .ok (.cursorPosition (report (desk.host.runCommand programs
        (session.invocation config.input ["getmouselocation"])).1))
  screen : action ≠ .cursorPosition →
    tasksOf config.typingDelayMs action =
      (commands config.typingDelayMs action).map .input ++ [.capture] ∧
    ((∃ base64, (Desk.execute programs config action desk).1 = .ok (.screenshot base64)) ↔
      ∃ bytes, Takes programs config session
        (settled programs config session action desk.host) bytes) ∧
    ((∃ reason, (Desk.execute programs config action desk).1 = .error (.screenshot reason)) ↔
      ¬ ∃ bytes, Takes programs config session
        (settled programs config session action desk.host) bytes)
  steady : ∀ {σ : Type} (others : Programs σ) (alike : Host τ → Host σ → Prop) (other : Desk σ),
    CapturesAlike programs others config session alike → other.session = some session →
    alike desk.host other.host →
      (Desk.execute programs config action desk).1.isOk =
        (Desk.execute others config action other).1.isOk

theorem Desk.executeIn_isOk
    {alike : Host τ → Host σ → Prop}
    (captures : CapturesAlike programs others config session alike) (action : Action)
    {host : Host τ} {other : Host σ} (begins : alike host other) :
    (executeIn programs config session action host).1.isOk =
      (executeIn others config session action other).1.isOk := by
  by_cases asks : action = .cursorPosition
  · rw [asks, executeIn_cursorPosition, executeIn_cursorPosition]
    rfl
  · have same := captures.capture _ _ (captures.settled action begins)
    have first := exists_executeIn_iff programs config session asks host
    have second := exists_executeIn_iff others config session asks other
    by_cases takes : ∃ bytes, Takes programs config session
        (settled programs config session action host) bytes
    · obtain ⟨base64, shown⟩ := first.1.mpr takes
      obtain ⟨otherBase64, otherShown⟩ := second.1.mpr (same.mp takes)
      rw [shown, otherShown]
      rfl
    · obtain ⟨reason, failed⟩ := first.2.mpr takes
      obtain ⟨otherReason, otherFailed⟩ := second.2.mpr (mt same.mpr takes)
      rw [failed, otherFailed]
      rfl

/-- Carrying out an action with a session held: every input command of its entry is run, however the
others end, and then one capture, which alone decides whether there is a picture; only the pointer
is reported without one. -/
theorem observed_of_execute
    {desk : Desk τ} (held : desk.session = some session) (action : Action) :
    Observed programs config session desk action := by
  obtain ⟨_, host⟩ := desk
  cases held
  have machine : (Desk.execute programs config action ⟨some session, host⟩).2 =
      ⟨some session, (runTasks programs config session
        (tasksOf config.typingDelayMs action) host).2⟩ :=
    congrArg (Desk.mk (some session)) (Desk.executeIn_tasks action host)
  refine {
    machine := machine
    tasks := runTasks_tasks _ host
    ran := ?_
    pointer := ?_
    screen := ?_
    steady := ?_ }
  · rw [machine]
    exact runTasks_ran _ host
  · rintro rfl
    exact ⟨rfl, Desk.executeIn_cursorPosition host⟩
  · intro shows
    exact ⟨tasksOf_of_ne shows, Desk.exists_executeIn_iff programs config session shows host⟩
  · rintro σ others alike ⟨_, other⟩ captures rfl begins
    exact Desk.executeIn_isOk captures action begins

/-! ## Rehearsed captures -/

namespace Desk

/-- An executor that has been started on a machine whose captures and input commands go by scripts.
-/
def rehearsed (captures inputs : List Script) : Desk Stage :=
  (start Rehearsal.programs rehearsedConfig "first"
    (idle (.fresh (.ofScripts [] [] captures inputs false)))).2

/-- The session that it holds. -/
def rehearsedSession : Session :=
  .opened rehearsedConfig "first" 1

def failing : Script :=
  { Script.free with status := 1 }

/-- Machines with the same files, on which the captures to come go by the same scripts. -/
def SameCaptures (host other : Host Stage) : Prop :=
  host.scene.captures = other.scene.captures ∧ host.files = other.files

theorem sameCaptures_of_input (session : Session) (arguments : List String) (host : Host Stage) :
    SameCaptures (host.runCommand Rehearsal.programs
      (session.invocation rehearsedConfig.input arguments)).2 host := by
  -- Neither a refusal nor a run of the input tool reaches the files or the scripts of captures.
  generalize ran : host.runCommand Rehearsal.programs
    (session.invocation rehearsedConfig.input arguments) = run
  obtain ⟨result, after⟩ := run
  rcases Host.runCommand_cases ran with ⟨problem, scene, _, left, rfl⟩ | ⟨_, rfl⟩
  · rcases left with rfl | ⟨reason, refused⟩
    · exact ⟨rfl, rfl⟩
    · obtain ⟨_, _, same⟩ := Option.map_eq_some_iff.mp refused
      cases same
      exact ⟨rfl, rfl⟩
  · have isInput : Tool.ofArgv? (session.invocation rehearsedConfig.input arguments).argv =
        some .input := by
      change Tool.ofProgram? Tool.input.program = some .input
      decide
    simp only [SameCaptures, Rehearsal.programs, Rehearsal.effectOf, Rehearsal.ownEffect, isInput,
      Rehearsal.inputEffect]
    split
    · simp only [Stage.afterInput]
      split
      · exact ⟨rfl, trivial⟩
      · split <;> exact ⟨rfl, trivial⟩
    · exact ⟨rfl, rfl⟩

/-- Whether a stand-in can be started does not depend on the machine. -/
theorem attempt_of_standIn
    {invocation : Invocation} (isStandIn : (Tool.ofArgv? invocation.argv).isSome = true)
    (host other : Host Stage) :
    (host.attempt Rehearsal.programs invocation).1 =
      (other.attempt Rehearsal.programs invocation).1 := by
  have refusal (host : Host Stage) : Rehearsal.programs.refusal invocation.argv host =
      (Rehearsal.argumentsReason? invocation.argv).map fun reason => (reason, host.scene) := by
    simp only [Rehearsal.programs, Rehearsal.refusalOf, isStandIn, if_true, Option.none_or]
  unfold Host.attempt
  cases argv : invocation.argv with
  | nil => rfl
  | cons program arguments =>
      rw [argv] at refusal
      simp only [refusal]
      split
      · rfl
      · cases Rehearsal.argumentsReason? (program :: arguments) <;> rfl

theorem isCapture_of_rehearsed :
    Tool.ofArgv? (Task.capture.invocation rehearsedConfig session).argv = some .capture := by
  change Tool.ofProgram? Tool.capture.program = some .capture
  decide

theorem isSome_captureEffect_iff (host : Host Stage) :
    ((Rehearsal.captureEffect ["-o", session.picture] host).files.read?
        session.picture).isSome = true ↔
      ((host.scene.captures.head?.getD .free).status = 0 ∧
        (host.scene.captures.head?.getD .free).takesNone = false) ∨
      (host.files.read? session.picture).isSome = true := by
  change ((if ((host.scene.captures.head?.getD .free).status = 0 &&
    !(host.scene.captures.head?.getD .free).takesNone) = true then _ else _ : Files).read?
      session.picture).isSome = true ↔ _
  split
  next writes => simpa using Or.inl (by simpa using writes)
  next keeps =>
    have kept : ¬ ((host.scene.captures.head?.getD .free).status = 0 ∧
        (host.scene.captures.head?.getD .free).takesNone = false) := by
      simpa using keeps
    exact (or_iff_right kept).symm

/-- Whether a rehearsed capture takes a picture is a matter of its script and of the files. -/
theorem exists_takes_rehearsed_iff (host : Host Stage) :
    (∃ bytes, Takes Rehearsal.programs rehearsedConfig session host bytes) ↔
      (host.attempt Rehearsal.programs (Task.capture.invocation rehearsedConfig session)).1 =
        .ok () ∧
      ((host.scene.captures.head?.getD .free).output []).success = true ∧
      (((host.scene.captures.head?.getD .free).status = 0 ∧
          (host.scene.captures.head?.getD .free).takesNone = false) ∨
        (host.files.read? session.picture).isSome = true) := by
  have effect : Rehearsal.programs.effect (Task.capture.invocation rehearsedConfig session) host =
      { Rehearsal.captureEffect ["-o", session.picture] host with
        ended := [] ++ Rehearsal.endingSoon host } := by
    simp only [Rehearsal.programs, Rehearsal.effectOf, Rehearsal.ownEffect, isCapture_of_rehearsed]
    rfl
  rw [← isSome_captureEffect_iff, Option.isSome_iff_exists]
  constructor
  · rintro ⟨bytes, starts, succeeds, leaves⟩
    rw [effect] at succeeds leaves
    exact ⟨starts, succeeds, bytes, leaves⟩
  · rintro ⟨starts, succeeds, bytes, leaves⟩
    refine ⟨bytes, starts, ?_, ?_⟩
    · rw [effect]
      exact succeeds
    · rw [effect]
      exact leaves

theorem capturesAlike_rehearsed (session : Session) :
    CapturesAlike Rehearsal.programs Rehearsal.programs rehearsedConfig session SameCaptures where
  input arguments host other _ same := by
    obtain ⟨scripts, files⟩ := sameCaptures_of_input session arguments host
    obtain ⟨otherScripts, otherFiles⟩ := sameCaptures_of_input session arguments other
    exact ⟨(scripts.trans same.1).trans otherScripts.symm,
      (files.trans same.2).trans otherFiles.symm⟩
  pause _ _ _ same := same
  capture host other same := by
    have isStandIn : (Tool.ofArgv?
        (Task.capture.invocation rehearsedConfig session).argv).isSome = true := by
      rw [isCapture_of_rehearsed]
      rfl
    obtain ⟨scripts, files⟩ := same
    rw [exists_takes_rehearsed_iff, exists_takes_rehearsed_iff, scripts, files,
      attempt_of_standIn isStandIn host other]

/-- A key that fails and the same key when it succeeds: the first shows the screen as it was, and
the second shows one as well. -/
theorem observed_of_rehearsedKeys :
    (execute Rehearsal.programs rehearsedConfig (.key "a")
      (rehearsed [] [failing])).1 =
        .ok (.screenshot "ZGVza3RvcAo=") ∧
    Observed Rehearsal.programs rehearsedConfig rehearsedSession
      (rehearsed [] [failing]) (.key "a") ∧
    (execute Rehearsal.programs rehearsedConfig (.key "a")
        (rehearsed [] [failing])).1.isOk =
      (execute Rehearsal.programs rehearsedConfig (.key "a") (rehearsed [] [])).1.isOk := by
  have held : (rehearsed [] [failing]).session =
      some rehearsedSession := by
    with_unfolding_all rfl
  have otherHeld : (rehearsed [] []).session = some rehearsedSession := by
    with_unfolding_all rfl
  have alike : SameCaptures (rehearsed [] [failing]).host
      (rehearsed [] []).host := by
    with_unfolding_all exact ⟨rfl, rfl⟩
  have observed : Observed Rehearsal.programs rehearsedConfig rehearsedSession
      (rehearsed [] [failing]) (.key "a") :=
    observed_of_execute held (.key "a")
  exact ⟨by with_unfolding_all rfl, observed, observed.steady Rehearsal.programs SameCaptures _
    (capturesAlike_rehearsed _) otherHeld alike⟩

end Desk

end DesktopAgent.Display
