import DesktopAgent.Proofs.Action.Pointer
import DesktopAgent.Proofs.Display.Tasks
import DesktopAgent.Proofs.Text.Utf8
import DesktopAgent.Rehearsal.Desktop

/-!
Where the pointer is.

When a run of the input tool that succeeds with a move sets the pointer and nothing else does, the
pointer is where the last action with a place put it whose move succeeded; asking for the pointer
gives that place back.
-/

namespace DesktopAgent

/-- The place that an action carries. -/
def Action.target? : Action → Option Coordinate
  | .leftClick place | .rightClick place | .doubleClick place => place
  | .scroll place _ _ => place
  | .mouseMove place => some place
  | .type _ | .key _ | .screenshot | .cursorPosition | .unknown _ => none

namespace Display

open DesktopAgent.Text

variable {τ : Type} {programs : Programs τ} {config : Config} {session : Session}

/-- The third and the fourth argument of a command that begins with a move. -/
def movedTo? : List String → Option (String × String)
  | "mousemove" :: _ :: x :: y :: _ => some (x, y)
  | _ => none

/-- Where a run of the input tool leaves the pointer. -/
def pointed (arguments : List String) (outcome : Outcome) (place : String × String) :
    String × String :=
  if outcome = .succeeded then (movedTo? arguments).getD place else place

/-- An input tool that moves a pointer. It is configured without arguments; a run that succeeds with
a move sets the pointer and no other run changes it, and a run that succeeds with the question where
the pointer is prints a line about it. Taking pictures does not move the pointer, and it stays while
nothing is run. -/
structure Points (programs : Programs τ) (config : Config) (session : Session)
    (pointer : τ → String × String) : Prop where
  alone : ∃ program, config.input = [program]
  input : ∀ (arguments : List String) (host : Host τ),
    pointer (host.runCommand programs (session.invocation config.input arguments)).2.scene =
      pointed (session.invocation config.input arguments).argv.tail
        (.ofRun (host.runCommand programs (session.invocation config.input arguments)).1)
        (pointer host.scene)
  locate : ∀ (host after : Host τ) (output : Output),
    host.runCommand programs (session.invocation config.input locateArguments) =
      (.ok output, after) → output.success = true →
    ∃ ending : String, (∀ c ∈ ending.toList, isBlank c = true) ∧
      output.stdout = Utf8.encode (Pointer.line (pointer host.scene) ++ ending)
  capture : ∀ host : Host τ,
    pointer (host.runCommand programs
      (session.invocation config.capture ["-o", session.picture])).2.scene = pointer host.scene
  pause : ∀ (span : Span) (host : Host τ),
    pointer (host.pause programs span).scene = pointer host.scene

/-- Whether a run is an input command that carries the move to a place, and succeeded. -/
def carriedOut (place : Coordinate) : Task × Outcome → Bool
  | (.input arguments, .succeeded) => (moveArguments place).isPrefixOf arguments
  | _ => false

/-- The place that an action carries, when a run of the action moved there. -/
def moved? (action : Action) (runs : List (Task × Outcome)) : Option Coordinate :=
  action.target?.filter fun place => runs.any (carriedOut place)

/-- Where a run leaves the pointer. -/
def afterRun (place : String × String) (run : Task × Outcome) : String × String :=
  match run.1 with
  | .input arguments => pointed arguments run.2 place
  | .capture => place

/-! ## Moves of an action -/

section

variable (place : Coordinate) (click : List String)

theorem movedTo?_click : movedTo? ("click" :: click) = none := by
  simp [movedTo?]

theorem isPrefixOf_click : (moveArguments place).isPrefixOf ("click" :: click) = false := by
  simp [moveArguments, List.isPrefixOf]

theorem isPrefixOf_move : (moveArguments place).isPrefixOf (moveArguments place ++ click) = true :=
  List.isPrefixOf_iff_prefix.mpr (List.prefix_append _ _)

/-- A command moves the pointer to a place when it begins with the move to it. -/
def Moves (target : Option Coordinate) (arguments : List String) : Prop :=
  movedTo? arguments =
    (target.filter fun place => (moveArguments place).isPrefixOf arguments).map
      Coordinate.numerals

theorem moves_move : Moves (some place) (moveArguments place ++ click) := by
  unfold Moves
  rw [Option.filter_some, if_pos (isPrefixOf_move place click)]
  rfl

end

theorem moves_click (target : Option Coordinate) (click : List String) :
    Moves target ("click" :: click) := by
  unfold Moves
  rw [movedTo?_click]
  cases target with
  | none => rfl
  | some place =>
      rw [Option.filter_some, isPrefixOf_click]
      rfl

theorem moves_clickArguments (target : Option Coordinate) (click : List String) :
    Moves target (clickArguments target click) := by
  cases target with
  | none => exact moves_click none click
  | some place => exact moves_move place ("click" :: click)

/-- Each command of an action moves the pointer to the place that the action carries, or does not
move it. -/
theorem moves_of_mem
    {typingDelayMs : UInt64} {action : Action} {arguments : List String}
    (member : arguments ∈ commands typingDelayMs action) : Moves action.target? arguments := by
  cases action with
  | leftClick place =>
      rw [List.mem_singleton.mp member]
      exact moves_clickArguments place _
  | rightClick place =>
      rw [List.mem_singleton.mp member]
      exact moves_clickArguments place _
  | doubleClick place =>
      rw [List.mem_singleton.mp member]
      exact moves_clickArguments place _
  | type text =>
      rw [List.mem_singleton.mp member]
      simp [Moves, movedTo?, Action.target?]
  | key keys =>
      rw [List.mem_singleton.mp member]
      simp [Moves, movedTo?, Action.target?]
  | scroll place direction amount =>
      rcases List.mem_append.mp member with isMove | isClick
      · cases place with
        | none => cases isMove
        | some place =>
            rw [List.mem_singleton.mp isMove, ← List.append_nil (moveArguments place)]
            exact moves_move place []
      · split at isClick
        · cases isClick
        · rw [List.mem_singleton.mp isClick]
          exact moves_click place _
  | mouseMove place =>
      rw [List.mem_singleton.mp member, ← List.append_nil (moveArguments place)]
      exact moves_move place []
  | screenshot => cases member
  | cursorPosition => cases member
  | unknown name => cases member

theorem moves_of_mem_tasksOf
    {typingDelayMs : UInt64} {action : Action} {arguments : List String}
    (member : Task.input arguments ∈ tasksOf typingDelayMs action) :
    Moves action.target? arguments := by
  by_cases asks : action = .cursorPosition
  · rw [asks] at member ⊢
    cases List.mem_singleton.mp member
    simp [Moves, movedTo?, locateArguments, Action.target?]
  · rw [tasksOf_of_ne asks] at member
    rcases List.mem_append.mp member with isInput | isCapture
    · obtain ⟨_, entry, same⟩ := List.mem_map.mp isInput
      cases same
      exact moves_of_mem entry
    · cases List.mem_singleton.mp isCapture

/-- A run whose command moves to no other place sets the pointer when it is one that moved there,
and otherwise leaves it. -/
theorem afterRun_of_moves
    {target : Coordinate} {run : Task × Outcome}
    (moves : ∀ arguments, run.1 = .input arguments → Moves (some target) arguments)
    (place : String × String) :
    afterRun place run = if carriedOut target run then target.numerals else place := by
  obtain ⟨task, outcome⟩ := run
  cases task with
  | capture => cases outcome <;> rfl
  | input arguments =>
      cases outcome with
      | succeeded =>
          have moved := moves arguments rfl
          change (movedTo? arguments).getD place = _
          rw [moved, Option.filter_some, carriedOut]
          split
          · rfl
          · rfl
      | failed => rfl
      | unstarted => rfl

theorem afterRun_of_unmoved
    {run : Task × Outcome} (moves : ∀ arguments, run.1 = .input arguments → Moves none arguments)
    (place : String × String) : afterRun place run = place := by
  obtain ⟨task, outcome⟩ := run
  cases task with
  | capture => rfl
  | input arguments =>
      have moved := moves arguments rfl
      change pointed arguments outcome place = place
      unfold pointed
      rw [moved]
      split
      · rfl
      · rfl

/-- A fold each of whose steps sets a value or does nothing. -/
theorem foldl_of_sets
    {α β : Type} {step : β → α → β} {sets : α → Bool} {value : β} (items : List α)
    (steps : ∀ item ∈ items, ∀ start, step start item = if sets item then value else start) :
    ∀ start, items.foldl step start = if items.any sets then value else start := by
  induction items with
  | nil => exact fun _ => rfl
  | cons item rest inductionHypothesis =>
      intro start
      have later := inductionHypothesis fun other member =>
        steps other (List.mem_cons_of_mem item member)
      rw [List.foldl_cons, later, steps item List.mem_cons_self, List.any_cons]
      cases sets item with
      | true => simp
      | false => rfl

/-- The runs of an action take the pointer to its place if one of them moved there. -/
theorem foldl_afterRun
    {typingDelayMs : UInt64} {action : Action} (runs : List (Task × Outcome))
    (known : ∀ run ∈ runs, run.1 ∈ tasksOf typingDelayMs action) (place : String × String) :
    runs.foldl afterRun place = ((moved? action runs).map Coordinate.numerals).getD place := by
  have moves (run : Task × Outcome) (member : run ∈ runs) (arguments : List String)
      (isInput : run.1 = .input arguments) : Moves action.target? arguments :=
    moves_of_mem_tasksOf (isInput ▸ known run member)
  unfold moved?
  cases target : action.target? with
  | none =>
      rw [target] at moves
      apply List.foldlRecOn (motive := fun reached => reached = place) runs afterRun rfl
      intro reached same run member
      rw [afterRun_of_unmoved (moves run member), same]
  | some target =>
      rw [target] at moves
      rw [foldl_of_sets runs fun run member => afterRun_of_moves (moves run member),
        Option.filter_some]
      split
      · rfl
      · rfl

/-! ## The pointer along actions -/

section

variable (programs config session)

/-- The runs that each of some actions makes, one action after the other. -/
def actionRuns : List Action → Host τ → List (Action × List (Task × Outcome))
  | [], _ => []
  | action :: rest, host =>
      let (runs, host) :=
        runTasks programs config session (tasksOf config.typingDelayMs action) host
      (action, runs) :: actionRuns rest host

end

/-- The runs of the actions are those of all their tasks. -/
theorem actionRuns_flatMap (actions : List Action) :
    ∀ host : Host τ, (actionRuns programs config session actions host).flatMap (·.2) =
      (runTasks programs config session
        (actions.flatMap (tasksOf config.typingDelayMs)) host).1 := by
  induction actions with
  | nil => exact fun _ => rfl
  | cons action rest inductionHypothesis =>
      intro host
      rw [actionRuns, List.flatMap_cons, List.flatMap_cons, runTasks_append, inductionHypothesis]

theorem actionRuns_actions (actions : List Action) :
    ∀ host : Host τ, (actionRuns programs config session actions host).map (·.1) = actions := by
  induction actions with
  | nil => exact fun _ => rfl
  | cons action rest inductionHypothesis =>
      intro host
      exact congrArg (action :: ·) (inductionHypothesis _)

/-- The place to which the last of the actions moved that moved at all, or else the first place. -/
def lastPlace (initial : Coordinate) (runs : List (Action × List (Task × Outcome))) : Coordinate :=
  (runs.filterMap fun run => moved? run.1 run.2).getLast?.getD initial

theorem lastPlace_cons
    (initial : Coordinate) (run : Action × List (Task × Outcome))
    (rest : List (Action × List (Task × Outcome))) :
    lastPlace initial (run :: rest) = lastPlace ((moved? run.1 run.2).getD initial) rest := by
  cases moved : moved? run.1 run.2 with
  | none => simp only [lastPlace, List.filterMap_cons, moved, Option.getD_none]
  | some place =>
      simp only [lastPlace, List.filterMap_cons, moved, List.getLast?_cons, Option.getD_some]

namespace Points

variable {pointer : τ → String × String}

theorem runTasks
    (points : Points programs config session pointer) (tasks : List Task) :
    ∀ host : Host τ,
      pointer (Display.runTasks programs config session tasks host).2.scene =
        (Display.runTasks programs config session tasks host).1.foldl afterRun
          (pointer host.scene) := by
  induction tasks with
  | nil => exact fun _ => rfl
  | cons task rest inductionHypothesis =>
      intro host
      have first : pointer ((task.prepare programs config host).runCommand programs
            (task.invocation config session)).2.scene =
          afterRun (pointer host.scene) (task,
            .ofRun ((task.prepare programs config host).runCommand programs
              (task.invocation config session)).1) := by
        cases task with
        | capture =>
            have kept := points.capture (host.pause programs config.actionSettle)
            rwa [points.pause] at kept
        | input arguments =>
            obtain ⟨program, alone⟩ := points.alone
            have moved := points.input arguments host
            have tail : (session.invocation config.input arguments).argv.tail = arguments := by
              rw [Session.invocation, alone]
              rfl
            rw [tail] at moved
            exact moved
      have others := inductionHypothesis ((task.prepare programs config host).runCommand programs
        (task.invocation config session)).2
      rw [first] at others
      exact others

/-- One action takes the pointer to its place when it moved there, and otherwise leaves it. -/
theorem action
    (points : Points programs config session pointer) (action : Action) {host : Host τ}
    {initial : Coordinate} (begins : pointer host.scene = initial.numerals) :
    pointer (Display.runTasks programs config session
        (tasksOf config.typingDelayMs action) host).2.scene =
      ((moved? action (Display.runTasks programs config session
        (tasksOf config.typingDelayMs action) host).1).getD initial).numerals := by
  have known : ∀ run ∈ (Display.runTasks programs config session
      (tasksOf config.typingDelayMs action) host).1,
      run.1 ∈ tasksOf config.typingDelayMs action := by
    intro run member
    have isTask := List.mem_map_of_mem member (f := (·.1))
    rwa [runTasks_tasks] at isTask
  rw [points.runTasks, begins, foldl_afterRun _ known, Option.getD_map]

/-- By induction on the actions, for every place at which the pointer begins. -/
theorem actions
    (points : Points programs config session pointer) (actions : List Action) :
    ∀ {host : Host τ} {initial : Coordinate}, pointer host.scene = initial.numerals →
      pointer (Display.runTasks programs config session
          (actions.flatMap (tasksOf config.typingDelayMs)) host).2.scene =
        (lastPlace initial (actionRuns programs config session actions host)).numerals := by
  induction actions with
  | nil => exact fun begins => begins
  | cons action rest inductionHypothesis =>
      intro host initial begins
      have later := inductionHypothesis (points.action action begins)
      rw [List.flatMap_cons, runTasks_append, actionRuns, lastPlace_cons]
      exact later

/-- A question that succeeds is answered with the place of the pointer. -/
theorem locates
    (points : Points programs config session pointer) {host : Host τ} {place : Coordinate}
    (reached : pointer host.scene = place.numerals)
    (succeeds : .ofRun (host.runCommand programs
      (session.invocation config.input locateArguments)).1 = Outcome.succeeded) :
    ∃ text, (Desk.executeIn programs config session .cursorPosition host).1 =
        .ok (.cursorPosition text) ∧
      Pointer.position? text = some (place.x, place.y) := by
  generalize ran : host.runCommand programs
    (session.invocation config.input locateArguments) = run at succeeds
  obtain ⟨result, after⟩ := run
  cases result with
  | error problem => cases succeeds
  | ok output =>
      cases success : output.success with
      | false => simp [Outcome.ofRun, success] at succeeds
      | true =>
          obtain ⟨ending, blanks, stdout⟩ := points.locate host after output ran success
          rw [reached] at stdout
          refine ⟨trimmed (Pointer.line place.numerals ++ ending), ?_, ?_⟩
          · simp [Desk.executeIn, Desk.input, Session.run, ran, Except.map,
              CommandOutput.ofOutput, success, stdout, Utf8.decode_encode]
          · rw [Pointer.position?_trimmed, Pointer.position?_line place blanks]

end Points

/-- What is found of the pointer after actions. The runs of the actions are those that the executor
makes for them, and when the question where the pointer is succeeds afterwards, the answer states
the place to which the last of the actions moved that moved at all. -/
structure Tracked (programs : Programs τ) (config : Config) (session : Session) (desk : Desk τ)
    (initial : Coordinate) (actions : List Action) : Prop where
  runs : (Desk.performAll programs config desk (actions.map .execute)).2 =
    ⟨some session, (runTasks programs config session
      (actions.flatMap (tasksOf config.typingDelayMs)) desk.host).2⟩
  each : (actionRuns programs config session actions desk.host).map (·.1) = actions
  all : (actionRuns programs config session actions desk.host).flatMap (·.2) =
    (runTasks programs config session
      (actions.flatMap (tasksOf config.typingDelayMs)) desk.host).1
  found : ∀ after, (Desk.performAll programs config desk (actions.map .execute)).2 = after →
    .ofRun (after.host.runCommand programs
      (session.invocation config.input locateArguments)).1 = Outcome.succeeded →
    ∃ text, (Desk.execute programs config .cursorPosition after).1 =
        .ok (.cursorPosition text) ∧
      Pointer.position? text =
        some ((lastPlace initial (actionRuns programs config session actions desk.host)).x,
          (lastPlace initial (actionRuns programs config session actions desk.host)).y)

/-- The pointer is where the last action with a place put it whose move succeeded, whatever else was
done and whichever runs failed. -/
theorem tracked_of_execute
    {pointer : τ → String × String} (points : Points programs config session pointer)
    {desk : Desk τ} (held : desk.session = some session) {initial : Coordinate}
    (begins : pointer desk.host.scene = initial.numerals) (actions : List Action) :
    Tracked programs config session desk initial actions := by
  obtain ⟨_, host⟩ := desk
  cases held
  have runs : (Desk.performAll programs config ⟨some session, host⟩ (actions.map .execute)).2 =
      ⟨some session, (runTasks programs config session
        (actions.flatMap (tasksOf config.typingDelayMs)) host).2⟩ :=
    Desk.performAll_tasks actions host
  refine ⟨runs, actionRuns_actions actions host, actionRuns_flatMap actions host, ?_⟩
  rintro after rfl succeeds
  rw [runs] at succeeds ⊢
  exact points.locates (points.actions actions begins) succeeds

/-! ## A tracker -/

/-- Where a pointer is, and how the next runs of the input tool end. -/
structure Tracker where
  pointer : String × String
  pattern : List Outcome

namespace Tracker

def next (tracker : Tracker) : Outcome :=
  tracker.pattern.head?.getD .succeeded

def after (tracker : Tracker) (arguments : List String) : Tracker :=
  ⟨pointed arguments tracker.next tracker.pointer, tracker.pattern.tail⟩

/-- The input tool `aim`, which goes by the pattern, and the capture command `copy`. -/
def tools : Programs Tracker where
  refusal argv host :=
    if argv.head? = some "aim" ∧ host.scene.next = .unstarted then
      some ("Text file busy (os error 26)", host.scene.after argv.tail)
    else none
  effect invocation host :=
    match invocation.argv with
    | "aim" :: arguments =>
        ⟨⟨Utf8.encode (Pointer.line host.scene.pointer ++ "\n"), [],
          host.scene.next = .succeeded⟩, host.scene.after arguments, host.files, []⟩
    | _ => ⟨⟨[], [], true⟩, host.scene, host.files, []⟩
  idle _ host := (host.scene, [])
  delay _ := 0
  untold _ _ := false
  permits _ _ := true

def settings : Config :=
  { Config.ofEnvironment fun _ => none with capture := ["copy"], input := ["aim"] }

/-- The first session. -/
def first : Session :=
  .opened settings "first" 1

/-- An executor that has been started with its pointer at a place. -/
def started (place : Coordinate) (pattern : List Outcome) : Desk Tracker :=
  (Desk.start tools settings "first" (.idle (.fresh ⟨place.numerals, pattern⟩))).2

theorem follows : tools.Follows "aim" next fun arguments tracker => tracker.after arguments where
  refuses arguments host := by
    refine ⟨"Text file busy (os error 26)", ?_⟩
    simp only [tools, List.head?_cons, List.tail_cons, true_and]
  acts arguments display host := ⟨rfl, decide_eq_true_iff⟩

theorem points : Points tools settings first pointer where
  alone := ⟨"aim", rfl⟩
  input arguments host := by
    have ran := follows.runCommand arguments (some first.display) host
    change (host.runCommand tools ⟨"aim" :: arguments, some first.display⟩).2.scene.pointer =
      pointed arguments
        (.ofRun (host.runCommand tools ⟨"aim" :: arguments, some first.display⟩).1)
        host.scene.pointer
    rcases ran with ⟨unstarted, scene⟩ | ⟨ends, scene⟩
    · rw [unstarted, scene]
      rfl
    · rw [ends, scene]
      rfl
  locate host later output ran success := by
    refine ⟨"\n", ?_, ?_⟩
    · intro c member
      have isNewline : c = '\n' := by simpa using member
      rw [isNewline]
      decide
    · rcases Host.runCommand_cases ran with ⟨problem, scene, failed, _⟩ | ⟨given, _⟩
      · cases failed
      · cases given
        rfl
  capture host := by
    generalize ran : host.runCommand tools
      (first.invocation settings.capture ["-o", first.picture]) = run
    obtain ⟨result, later⟩ := run
    rcases Host.runCommand_cases ran with ⟨problem, scene, rfl, left, rfl⟩ | ⟨rfl, rfl⟩
    · rcases left with rfl | ⟨reason, refused⟩
      · rfl
      · cases refused
    · rfl
  pause _ _ := rfl

end Tracker

def trackedActions : List Action :=
  [.leftClick (some ⟨10, 20⟩), .mouseMove ⟨3, 4⟩, .cursorPosition,
    .scroll (some ⟨-9223372036854775808, 9223372036854775807⟩) .down 0,
    .doubleClick (some ⟨7, 8⟩), .type "mousemove --sync 1 2", .key "x:9 y:9", .leftClick none]

/-- The second move exits with a failure and the last cannot be started; the pointer is found at the
place of the scroll. -/
theorem tracked_of_tracker :
    Tracked Tracker.tools Tracker.settings Tracker.first
      (Tracker.started ⟨1, 2⟩ [.succeeded, .failed, .succeeded, .succeeded, .unstarted])
      ⟨1, 2⟩ trackedActions ∧
    lastPlace ⟨1, 2⟩ (actionRuns Tracker.tools Tracker.settings Tracker.first trackedActions
      (Tracker.started ⟨1, 2⟩ [.succeeded, .failed, .succeeded, .succeeded, .unstarted]).host) =
        ⟨-9223372036854775808, 9223372036854775807⟩ := by
  have held : (Tracker.started ⟨1, 2⟩
      [.succeeded, .failed, .succeeded, .succeeded, .unstarted]).session =
        some Tracker.first := by
    with_unfolding_all rfl
  have begins : (Tracker.started ⟨1, 2⟩
      [.succeeded, .failed, .succeeded, .succeeded, .unstarted]).host.scene.pointer =
        Coordinate.numerals ⟨1, 2⟩ := by
    with_unfolding_all rfl
  refine ⟨tracked_of_execute Tracker.points held begins trackedActions, ?_⟩
  decide +kernel

end Display

end DesktopAgent
