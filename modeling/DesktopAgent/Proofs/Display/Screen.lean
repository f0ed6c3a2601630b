import DesktopAgent.Proofs.Display.Capture
import DesktopAgent.Proofs.Text.Base64
import DesktopAgent.Rehearsal.Desktop

/-!
What the pictures show.

When each input command that succeeds leaves its line on the screen and nothing else does, a picture
shows the lines of exactly the commands that have succeeded so far, whichever fail or cannot be
started.
-/

namespace DesktopAgent.Display

open DesktopAgent.Rehearsal (Stage)
open DesktopAgent.Text

variable {τ : Type} {programs : Programs τ} {config : Config} {session : Session}

/-! ## Lines on the screen -/

/-- What a run of the input tool adds to the screen. -/
def lineOf (arguments : List String) (outcome : Outcome) : List UInt8 :=
  if outcome = .succeeded ∧ Stage.asksPointer arguments = false then Stage.lineOf arguments
  else []

/-- The lines of the input commands among some runs that succeeded. -/
def drawn (runs : List (Task × Outcome)) : List UInt8 :=
  runs.flatMap fun run =>
    match run.1 with
    | .input arguments => lineOf arguments run.2
    | .capture => []

/-- Tools that draw on a screen. The input tool, which is configured without arguments, adds a line
of its arguments for each run that succeeds and does not ask for the pointer, and changes nothing
otherwise; the capture command succeeds and copies the screen to the file that it is given. While
nothing is run the screen stays. -/
structure Draws (programs : Programs τ) (config : Config) (session : Session)
    (screen : τ → List UInt8) : Prop where
  alone : ∃ program, config.input = [program]
  input : ∀ (arguments : List String) (host : Host τ), IsInput config arguments →
    screen (host.runCommand programs (session.invocation config.input arguments)).2.scene =
      screen host.scene ++
        lineOf (session.invocation config.input arguments).argv.tail
          (.ofRun (host.runCommand programs (session.invocation config.input arguments)).1)
  capture : ∀ host : Host τ,
    .ofRun (host.runCommand programs
      (session.invocation config.capture ["-o", session.picture])).1 = Outcome.succeeded ∧
    (host.runCommand programs (session.invocation config.capture
      ["-o", session.picture])).2.files.read? session.picture = some (screen host.scene) ∧
    screen (host.runCommand programs (session.invocation config.capture
      ["-o", session.picture])).2.scene = screen host.scene
  pause : ∀ (span : Span) (host : Host τ),
    screen (host.pause programs span).scene = screen host.scene

theorem drawn_append (first second : List (Task × Outcome)) :
    drawn (first ++ second) = drawn first ++ drawn second :=
  List.flatMap_append

/-- A capture, or an input command of the table. -/
def Task.IsKnown (config : Config) : Task → Prop
  | .input arguments => IsInput config arguments
  | .capture => True

theorem isKnown_of_mem_tasksOf
    {action : Action} {task : Task} (member : task ∈ tasksOf config.typingDelayMs action) :
    task.IsKnown config := by
  by_cases asks : action = .cursorPosition
  · rw [asks] at member
    rw [List.mem_singleton.mp member]
    exact Or.inl rfl
  · rw [tasksOf_of_ne asks] at member
    rcases List.mem_append.mp member with isInput | isCapture
    · obtain ⟨arguments, entry, rfl⟩ := List.mem_map.mp isInput
      exact Or.inr ⟨action, entry⟩
    · rw [List.mem_singleton.mp isCapture]
      exact True.intro

namespace Draws

variable {screen : τ → List UInt8}

theorem task
    (draws : Draws programs config session screen) {task : Task} (known : task.IsKnown config)
    (host : Host τ) :
    screen ((task.prepare programs config host).runCommand programs
        (task.invocation config session)).2.scene =
      screen host.scene ++
        drawn [(task, .ofRun ((task.prepare programs config host).runCommand programs
          (task.invocation config session)).1)] := by
  cases task with
  | input arguments =>
      obtain ⟨program, alone⟩ := draws.alone
      have line := draws.input arguments host known
      have tail : (session.invocation config.input arguments).argv.tail = arguments := by
        rw [Session.invocation, alone]
        rfl
      rw [tail] at line
      unfold Task.invocation Task.prepare
      simpa only [drawn, List.flatMap_cons, List.flatMap_nil, List.append_nil] using line
  | capture =>
      have kept := (draws.capture (host.pause programs config.actionSettle)).2.2
      rw [draws.pause] at kept
      unfold Task.invocation Task.prepare
      simpa [drawn] using kept

/-- Tasks leave the lines of those of their input commands that succeeded. -/
theorem runTasks
    (draws : Draws programs config session screen) (tasks : List Task)
    (known : ∀ task ∈ tasks, task.IsKnown config) :
    ∀ host : Host τ,
      screen (Display.runTasks programs config session tasks host).2.scene =
        screen host.scene ++
          drawn (Display.runTasks programs config session tasks host).1 := by
  induction tasks with
  | nil => exact fun host => (List.append_nil (screen host.scene)).symm
  | cons task rest inductionHypothesis =>
      intro host
      have first := draws.task (known task List.mem_cons_self) host
      have others := inductionHypothesis
        (fun other member => known other (List.mem_cons_of_mem task member))
        ((task.prepare programs config host).runCommand programs
          (task.invocation config session)).2
      rw [first, List.append_assoc, ← drawn_append] at others
      exact others

theorem action
    (draws : Draws programs config session screen) (action : Action) (host : Host τ) :
    screen (Display.runTasks programs config session
        (tasksOf config.typingDelayMs action) host).2.scene =
      screen host.scene ++ drawn (Display.runTasks programs config session
        (tasksOf config.typingDelayMs action) host).1 :=
  draws.runTasks (tasksOf config.typingDelayMs action)
    (fun _ member => isKnown_of_mem_tasksOf member) host

theorem picture (draws : Draws programs config session screen) (host : Host τ) :
    (Desk.capture programs config session host).1 =
      .ok (Base64.encode (screen host.scene)) :=
  Desk.capture_of_takes (takes_of_succeeded (draws.capture host).1 (draws.capture host).2.1)

/-- An action shows the screen that it found with the lines of its own commands. -/
theorem observation
    (draws : Draws programs config session screen) {action : Action}
    (shows : action ≠ .cursorPosition) (host : Host τ) :
    (Desk.executeIn programs config session action host).1 =
      .ok (.screenshot (Base64.encode (screen host.scene ++
        drawn (Display.runTasks programs config session
          (tasksOf config.typingDelayMs action) host).1))) := by
  have taken := draws.picture (settled programs config session action host)
  have known : ∀ task ∈ (commands config.typingDelayMs action).map Task.input,
      task.IsKnown config := by
    intro task member
    have isTask : task ∈ tasksOf config.typingDelayMs action := by
      rw [tasksOf_of_ne shows]
      exact List.mem_append_left _ member
    exact isKnown_of_mem_tasksOf isTask
  have inputs := draws.runTasks _ known host
  rw [← draws.pause config.actionSettle, ← settled] at inputs
  have last (host : Host τ) :
      drawn (Display.runTasks programs config session [Task.capture] host).1 = [] := rfl
  rw [Desk.executeIn_of_ne shows, taken, inputs, tasksOf_of_ne shows, runTasks_append,
    drawn_append, last, List.append_nil]
  rfl

end Draws

/-! ## Screens -/

/-- What is seen of a screen while an executor carries out actions. The commands that it runs are
those of the actions, in their order, and each picture shows the lines of those that have succeeded;
some actions have none. -/
structure Screens (programs : Programs τ) (config : Config) (session : Session)
    (screen : τ → List UInt8) (desk : Desk τ) (actions : List Action) : Prop where
  runs : (Desk.performAll programs config desk (actions.map .execute)).2 =
    ⟨some session, (runTasks programs config session
      (actions.flatMap (tasksOf config.typingDelayMs)) desk.host).2⟩
  tasks : (runTasks programs config session
      (actions.flatMap (tasksOf config.typingDelayMs)) desk.host).1.map (·.1) =
    actions.flatMap (tasksOf config.typingDelayMs)
  observations : ∀ (index : Nat) (action : Action), actions[index]? = some action →
    action ≠ .cursorPosition →
      (Desk.performAll programs config desk (actions.map .execute)).1[index]? =
        some (.observed (.ok (.screenshot (Base64.encode (screen desk.host.scene ++
          drawn (runTasks programs config session
            ((actions.take (index + 1)).flatMap (tasksOf config.typingDelayMs))
              desk.host).1)))))
  quiet : ∀ action host,
    action = .screenshot ∨ action = .cursorPosition ∨ (∃ name, action = .unknown name) →
      drawn (runTasks programs config session
        (tasksOf config.typingDelayMs action) host).1 = []
  still : ∀ (place : Option Coordinate) (direction : ScrollDirection) (host : Host τ),
    drawn (runTasks programs config session
        (tasksOf config.typingDelayMs (.scroll place direction 0)) host).1 = [] ∨
      ∃ target, place = some target ∧
        drawn (runTasks programs config session
          (tasksOf config.typingDelayMs (.scroll place direction 0)) host).1 =
            Stage.lineOf (moveArguments target)

/-- Two pictures are the same just when the same lines had been drawn. -/
theorem Screens.same_iff
    {screen : τ → List UInt8} {desk : Desk τ} {actions : List Action}
    (screens : Screens programs config session screen desk actions) {first second : Nat}
    {action other : Action} (found : actions[first]? = some action)
    (otherFound : actions[second]? = some other) (shows : action ≠ .cursorPosition)
    (otherShows : other ≠ .cursorPosition) :
    (Desk.performAll programs config desk (actions.map .execute)).1[first]? =
        (Desk.performAll programs config desk (actions.map .execute)).1[second]? ↔
      drawn (runTasks programs config session
          ((actions.take (first + 1)).flatMap (tasksOf config.typingDelayMs)) desk.host).1 =
        drawn (runTasks programs config session
          ((actions.take (second + 1)).flatMap (tasksOf config.typingDelayMs)) desk.host).1 := by
  rw [screens.observations first action found shows,
    screens.observations second other otherFound otherShows]
  constructor
  · intro same
    injection same with same
    injection same with same
    injection same with same
    injection same with same
    exact List.append_cancel_left (Base64.encode_injective same)
  · intro same
    rw [same]

/-- A screen, and how the next runs of the input tool end. -/
structure Easel where
  screen : List UInt8
  pattern : List Outcome

namespace Easel

def next (easel : Easel) : Outcome :=
  easel.pattern.head?.getD .succeeded

def after (easel : Easel) (arguments : List String) : Easel :=
  ⟨easel.screen ++ lineOf arguments easel.next, easel.pattern.tail⟩

/-- The input tool `draw`, which goes by the pattern, and the capture command `copy`. -/
def tools : Programs Easel where
  refusal argv host :=
    if argv.head? = some "draw" ∧ host.scene.next = .unstarted then
      some ("Text file busy (os error 26)", host.scene.after argv.tail)
    else none
  effect invocation host :=
    match invocation.argv with
    | "draw" :: arguments =>
        ⟨⟨[], [], host.scene.next = .succeeded⟩, host.scene.after arguments, host.files, []⟩
    | "copy" :: arguments =>
        ⟨⟨[], [], true⟩, host.scene,
          host.files.write (arguments.getLast?.getD "") host.scene.screen, []⟩
    | _ => ⟨⟨[], [], true⟩, host.scene, host.files, []⟩
  idle _ host := (host.scene, [])
  delay _ := 0
  untold _ _ := false
  permits _ _ := true

def settings : Config :=
  { Config.ofEnvironment fun _ => none with capture := ["copy"], input := ["draw"] }

/-- The first session. -/
def first : Session :=
  .opened settings "first" 1

/-- An executor that has been started, whose input commands end as a pattern says. -/
def started (pattern : List Outcome) : Desk Easel :=
  (Desk.start tools settings "first" (.idle (.fresh ⟨Stage.emptyScreen, pattern⟩))).2

theorem follows : tools.Follows "draw" next fun arguments easel => easel.after arguments where
  refuses arguments host := by
    refine ⟨"Text file busy (os error 26)", ?_⟩
    simp only [tools, List.head?_cons, List.tail_cons, true_and]
  acts arguments display host := ⟨rfl, decide_eq_true_iff⟩

theorem draws : Draws tools settings first screen where
  alone := ⟨"draw", rfl⟩
  input arguments host _ := by
    have ran := follows.runCommand arguments (some first.display) host
    change screen (host.runCommand tools ⟨"draw" :: arguments, some first.display⟩).2.scene =
      screen host.scene ++ lineOf arguments
        (.ofRun (host.runCommand tools ⟨"draw" :: arguments, some first.display⟩).1)
    rcases ran with ⟨unstarted, scene⟩ | ⟨ends, scene⟩
    · rw [unstarted, scene]
      exact (List.append_nil _).symm
    · rw [ends, scene]
      rfl
  capture host := by
    have ran : host.runCommand tools
        (first.invocation settings.capture ["-o", first.picture]) =
          (.ok ⟨[], [], true⟩, { host with
            files := host.files.write first.picture host.scene.screen
            ran := host.ran ++ [first.invocation settings.capture ["-o", first.picture]]
            processes := Host.reap [] host.processes }) := by
      with_unfolding_all rfl
    rw [ran]
    exact ⟨rfl, host.files.read?_write _ _, rfl⟩
  pause _ _ := rfl

end Easel

end DesktopAgent.Display
