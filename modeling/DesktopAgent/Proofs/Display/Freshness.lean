import DesktopAgent.Proofs.Display.Observation

/-!
Which bytes a picture shows.

A capture overwrites the session's file in place. What is read afterwards are the bytes that this
capture has written, unless it succeeds without touching the file: then they are those of an earlier
capture, if any has left some.
-/

namespace DesktopAgent.Display

open DesktopAgent.Rehearsal (Script Stage)
open DesktopAgent.Text

variable {τ : Type} {programs : Programs τ} {config : Config} {session : Session}

/-- What a run does to a file. -/
inductive Change where
  | kept
  | removed
  | written (bytes : List UInt8)
deriving DecidableEq, Repr

namespace Change

def apply : Change → Option (List UInt8) → Option (List UInt8)
  | .kept, file => file
  | .removed, _ => none
  | .written bytes, _ => some bytes

/-- A file after changes, the earliest first. -/
def applyAll (changes : List Change) (file : Option (List UInt8)) : Option (List UInt8) :=
  changes.foldl (fun file change => change.apply file) file

theorem applyAll_append (first second : List Change) (file : Option (List UInt8)) :
    applyAll (first ++ second) file = applyAll second (applyAll first file) :=
  List.foldl_append

/-- The change that can be seen of a file. -/
def between (before after : Option (List UInt8)) : Change :=
  if after = before then .kept
  else
    match after with
    | some bytes => .written bytes
    | none => .removed

theorem apply_between (before after : Option (List UInt8)) :
    (between before after).apply before = after := by
  unfold between
  split
  next same => exact same.symm
  next =>
    cases after with
    | none => rfl
    | some bytes => rfl

end Change

/-- An account tells what each run does to the file of a path. -/
def Tells (programs : Programs τ) (path : String) (account : Invocation → Host τ → Change) : Prop :=
  ∀ (invocation : Invocation) (host : Host τ),
    (programs.effect invocation host).files.read? path =
      (account invocation host).apply (host.files.read? path)

/-- What can be seen of a file tells what each run does to it. -/
theorem tells_between (programs : Programs τ) (path : String) :
    Tells programs path fun invocation host =>
      .between (host.files.read? path) ((programs.effect invocation host).files.read? path) :=
  fun _ _ => (Change.apply_between _ _).symm

/-! ## Changes of a session's file -/

section

variable (programs : Programs τ) (config : Config) (session : Session)
variable (account : Invocation → Host τ → Change)

/-- What a task does to the file; one that cannot be started does nothing. -/
def Task.change (task : Task) (host : Host τ) : Change :=
  match (host.attempt programs (task.invocation config session)).1 with
  | .ok _ => account (task.invocation config session) host
  | .error _ => .kept

/-- What tasks do to the file, one after the other. -/
def changesOf : List Task → Host τ → List Change
  | [], _ => []
  | task :: rest, host =>
      task.change programs config session account (task.prepare programs config host) ::
        changesOf rest ((task.prepare programs config host).runCommand programs
          (task.invocation config session)).2

/-- What an operation within a session does to the file. -/
def Operation.changes (host : Host τ) : Operation → List Change
  | .screenshot => [Task.capture.change programs config session account host]
  | .execute action =>
      changesOf programs config session account (tasksOf config.typingDelayMs action) host
  | .start _ | .stop | .drop | .isHealthy | .death _ => []

/-- What operations within a session do to the file, one after the other. -/
def history : List Operation → Desk τ → List Change
  | [], _ => []
  | operation :: rest, desk =>
      operation.changes programs config session account desk.host ++
        history rest (Desk.perform programs config desk operation).2

end

variable {account : Invocation → Host τ → Change}

theorem read?_runCommand
    (config : Config) (tells : Tells programs session.picture account) (task : Task)
    (host : Host τ) :
    (host.runCommand programs (task.invocation config session)).2.files.read? session.picture =
      (task.change programs config session account host).apply
        (host.files.read? session.picture) := by
  unfold Task.change
  cases started : (host.attempt programs (task.invocation config session)).1 with
  | error problem =>
      rw [(Host.runCommand_of_refused started).2]
      rfl
  | ok _ => rw [(Host.runCommand_of_started started).2, tells]

theorem read?_runTasks
    (config : Config) (tells : Tells programs session.picture account) (tasks : List Task) :
    ∀ host : Host τ,
      (runTasks programs config session tasks host).2.files.read? session.picture =
        Change.applyAll (changesOf programs config session account tasks host)
          (host.files.read? session.picture) := by
  induction tasks with
  | nil => exact fun _ => rfl
  | cons task rest inductionHypothesis =>
      intro host
      have first := read?_runCommand config tells task (task.prepare programs config host)
      rw [(task.prepare_keeps programs config host).1] at first
      have others := inductionHypothesis ((task.prepare programs config host).runCommand programs
        (task.invocation config session)).2
      rw [first] at others
      exact others

namespace Desk

/-- An operation within a session keeps the session and changes the session's file as told. -/
theorem read?_perform
    (config : Config) (tells : Tells programs session.picture account) {operation : Operation}
    (within : operation.isWithin = true) (host : Host τ) :
    (perform programs config ⟨some session, host⟩ operation).2.session = some session ∧
      (perform programs config ⟨some session, host⟩ operation).2.host.files.read?
          session.picture =
        Change.applyAll (operation.changes programs config session account host)
          (host.files.read? session.picture) := by
  cases operation with
  | start id => cases within
  | stop => cases within
  | drop => cases within
  | isHealthy => exact ⟨rfl, rfl⟩
  | death process => exact ⟨rfl, rfl⟩
  | screenshot =>
      refine ⟨rfl, ?_⟩
      change (capture programs config session host).2.files.read? session.picture = _
      rw [capture_host]
      exact read?_runCommand config tells .capture host
  | execute action =>
      refine ⟨rfl, ?_⟩
      change (executeIn programs config session action host).2.files.read? session.picture = _
      rw [executeIn_tasks]
      exact read?_runTasks config tells (tasksOf config.typingDelayMs action) host

theorem read?_performAll
    (config : Config) (tells : Tells programs session.picture account)
    (operations : List Operation) :
    ∀ desk : Desk τ, desk.session = some session →
      (∀ operation ∈ operations, operation.isWithin = true) →
      (performAll programs config desk operations).2.session = some session ∧
      (performAll programs config desk operations).2.host.files.read? session.picture =
        Change.applyAll (history programs config session account operations desk)
          (desk.host.files.read? session.picture) := by
  induction operations with
  | nil => exact fun _ held _ => ⟨held, rfl⟩
  | cons operation rest inductionHypothesis =>
      rintro ⟨_, host⟩ rfl within
      obtain ⟨held, file⟩ :=
        read?_perform config tells (within operation List.mem_cons_self) host
      have others := inductionHypothesis _ held
        fun other member => within other (List.mem_cons_of_mem operation member)
      rw [file] at others
      refine ⟨others.1, others.2.trans ?_⟩
      exact (Change.applyAll_append _ _ _).symm

end Desk

/-! ## Pictures and the captures that took them -/

/-- A call whose picture is of the bytes that its own capture has written; when the capture has
written none, the call fails for want of a picture. -/
structure Fresh {α : Type} (view : String → α) (wrote : Change) (result : Except Failure α) :
    Prop where
  written : ∀ base64, result = .ok (view base64) →
    ∃ bytes, wrote = .written bytes ∧ base64 = Base64.encode bytes
  missing : (∀ bytes, wrote ≠ .written bytes) → ∃ reason, result = .error (.screenshot reason)

/-- A capture succeeds without touching its file, and these bytes are there already. -/
structure Stale (programs : Programs τ) (config : Config) (session : Session)
    (account : Invocation → Host τ → Change) (host : Host τ) (file : Option (List UInt8))
    (bytes : List UInt8) : Prop where
  starts : (host.attempt programs (Task.capture.invocation config session)).1 = .ok ()
  succeeds : (programs.effect (Task.capture.invocation config session) host).output.success = true
  keeps : account (Task.capture.invocation config session) host = .kept
  left : file = some bytes

/-- How a call ends whose capture comes upon this file: its picture is fresh unless the capture is
stale, and then it is of the bytes that were there. -/
structure Pictured {α : Type} (programs : Programs τ) (config : Config) (session : Session)
    (account : Invocation → Host τ → Change) (view : String → α) (host : Host τ)
    (file : Option (List UInt8)) (result : Except Failure α) : Prop where
  fresh : Fresh view (Task.capture.change programs config session account host) result ↔
    ¬ ∃ bytes, Stale programs config session account host file bytes
  stale : ∀ bytes, Stale programs config session account host file bytes →
    result = .ok (view (Base64.encode bytes))

theorem Task.change_of_started
    {task : Task} {host : Host τ}
    (starts : (host.attempt programs (task.invocation config session)).1 = .ok ()) :
    task.change programs config session account host =
      account (task.invocation config session) host := by
  rw [Task.change, starts]

theorem Stale.takes
    (tells : Tells programs session.picture account) {host : Host τ} {bytes : List UInt8}
    (stale : Stale programs config session account host (host.files.read? session.picture) bytes) :
    Takes programs config session host bytes := by
  refine ⟨stale.starts, stale.succeeds, ?_⟩
  rw [tells, stale.keeps]
  exact stale.left

/-- The result of a capture is of what the capture has written, or of what it has found. -/
theorem pictured_of_capture
    {α : Type} {view : String → α} (injective : Function.Injective view)
    (tells : Tells programs session.picture account) (host : Host τ) :
    Pictured programs config session account view host (host.files.read? session.picture)
      (Desk.pictureResult view (Desk.capture programs config session host).1) := by
  have stale : ∀ bytes,
      Stale programs config session account host (host.files.read? session.picture) bytes →
        Desk.pictureResult view (Desk.capture programs config session host).1 =
          .ok (view (Base64.encode bytes)) := by
    intro bytes stale
    rw [Desk.capture_of_takes (stale.takes tells)]
    rfl
  refine ⟨⟨?_, ?_⟩, stale⟩
  · rintro fresh ⟨bytes, isStale⟩
    obtain ⟨_, wrote, _⟩ := fresh.written _ (stale bytes isStale)
    rw [Task.change_of_started isStale.starts, isStale.keeps] at wrote
    cases wrote
  · intro notStale
    -- A picture is of the file that the capture leaves. Had the capture kept the file, it would be
    -- stale; had it removed it, there would be no picture.
    rcases Desk.capture_cases programs config session host with
      ⟨bytes, takes, given⟩ | ⟨problem, misses, given⟩
    · have wrote : Task.capture.change programs config session account host =
          .written bytes := by
        have leaves := takes.leaves
        rw [tells] at leaves
        rw [Task.change_of_started takes.starts]
        cases change : account (Task.capture.invocation config session) host with
        | kept =>
            rw [change] at leaves
            exact absurd ⟨bytes, takes.starts, takes.succeeds, change, leaves⟩ notStale
        | removed =>
            rw [change] at leaves
            cases leaves
        | written others =>
            rw [change] at leaves
            rw [Option.some.inj leaves]
      rw [given, wrote]
      exact ⟨fun base64 shown => ⟨bytes, rfl, (injective (Except.ok.inj shown)).symm⟩,
        fun none => absurd rfl (none bytes)⟩
    · rw [given]
      exact ⟨fun base64 shown => by (cases shown), fun _ => ⟨problem.message, rfl⟩⟩

/-- How the next call ends after operations within a session. The file that its capture comes upon
is the one that the runs since the beginning have left. -/
structure Recent (programs : Programs τ) (config : Config) (session : Session)
    (account : Invocation → Host τ → Change) (desk : Desk τ) (operations : List Operation) :
    Prop where
  screenshot : Pictured programs config session account id
    (Desk.performAll programs config desk operations).2.host
    (Change.applyAll (history programs config session account operations desk)
      (desk.host.files.read? session.picture))
    (Desk.screenshot programs config (Desk.performAll programs config desk operations).2).1
  execute : ∀ action, action ≠ .cursorPosition →
    Pictured programs config session account .screenshot
      (settled programs config session action
        (Desk.performAll programs config desk operations).2.host)
      (Change.applyAll (history programs config session account operations desk ++
          changesOf programs config session account
            ((commands config.typingDelayMs action).map .input)
            (Desk.performAll programs config desk operations).2.host)
        (desk.host.files.read? session.picture))
      (Desk.execute programs config action (Desk.performAll programs config desk operations).2).1
  asks : ∀ base64, (Desk.execute programs config .cursorPosition
    (Desk.performAll programs config desk operations).2).1 ≠ .ok (.screenshot base64)

/-- After whatever has been done within a session, a call shows what its own capture has written,
unless the capture succeeds without touching a file that is there. -/
theorem recent_of_performAll
    {desk : Desk τ} (tells : Tells programs session.picture account)
    (held : desk.session = some session) (operations : List Operation)
    (within : ∀ operation ∈ operations, operation.isWithin = true) :
    Recent programs config session account desk operations := by
  obtain ⟨after, file⟩ := Desk.read?_performAll config tells operations desk held within
  refine { screenshot := ?_, execute := ?_, asks := ?_ }
  · rw [Desk.screenshot_of_held after, ← file]
    exact pictured_of_capture Function.injective_id tells _
  · intro action shows
    have inputs := read?_runTasks config tells
      ((commands config.typingDelayMs action).map .input)
      (Desk.performAll programs config desk operations).2.host
    rw [Desk.execute_of_held action after, Desk.executeIn_of_ne shows, Change.applyAll_append,
      ← file, ← inputs]
    exact pictured_of_capture (fun _ _ => Observation.screenshot.inj) tells
      (settled programs config session action _)
  · intro base64
    rw [Desk.execute_of_held .cursorPosition after, Desk.executeIn_cursorPosition]
    exact fun shown => by (cases shown)

namespace Desk

/-- The script of a capture that succeeds without touching its file. -/
def untouching : Script :=
  { Script.free with takesNone := true }

/-- What can be seen of the session's file tells what a rehearsed run does to it. -/
def rehearsedAccount (invocation : Invocation) (host : Host Stage) : Change :=
  .between (host.files.read? rehearsedSession.picture)
    ((Rehearsal.programs.effect invocation host).files.read? rehearsedSession.picture)

/-- The first capture writes its file, the second does not touch it. -/
theorem recent_of_rehearsedCaptures :
    history Rehearsal.programs rehearsedConfig rehearsedSession rehearsedAccount
      [.screenshot] (rehearsed [.free, untouching] []) = [.written Stage.emptyScreen] ∧
    Recent Rehearsal.programs rehearsedConfig rehearsedSession rehearsedAccount
      (rehearsed [.free, untouching] []) [.screenshot] := by
  have held : (rehearsed [.free, untouching] []).session = some rehearsedSession := by
    with_unfolding_all rfl
  refine ⟨by with_unfolding_all rfl, recent_of_performAll (tells_between _ _) held _ ?_⟩
  intro operation member
  rw [List.mem_singleton.mp member]
  rfl

/-- An executor whose first capture has written its file and whose next does not touch it. -/
def captured : Desk Stage :=
  (performAll Rehearsal.programs rehearsedConfig (rehearsed [.free, untouching] [])
    [.screenshot]).2

/-- The picture after a key is the one from before it, although the capture has written nothing. -/
theorem stale_of_rehearsedKey :
    Tells Rehearsal.programs rehearsedSession.picture rehearsedAccount ∧
    captured.session = some rehearsedSession ∧
    (execute Rehearsal.programs rehearsedConfig (.key "a") captured).1 =
      .ok (.screenshot "ZGVza3RvcAo=") ∧
    ¬ Fresh Observation.screenshot
      (Task.capture.change Rehearsal.programs rehearsedConfig rehearsedSession rehearsedAccount
        (settled Rehearsal.programs rehearsedConfig rehearsedSession (.key "a") captured.host))
      (execute Rehearsal.programs rehearsedConfig (.key "a") captured).1 := by
  have shown : (execute Rehearsal.programs rehearsedConfig (.key "a") captured).1 =
      .ok (.screenshot "ZGVza3RvcAo=") := by
    with_unfolding_all rfl
  have wrote : Task.capture.change Rehearsal.programs rehearsedConfig rehearsedSession
      rehearsedAccount (settled Rehearsal.programs rehearsedConfig rehearsedSession (.key "a")
        captured.host) = .kept := by
    with_unfolding_all rfl
  refine ⟨tells_between _ _, by with_unfolding_all rfl, shown, ?_⟩
  rw [wrote, shown]
  intro fresh
  obtain ⟨reason, fails⟩ := fresh.missing fun _ kept => by (cases kept)
  cases fails

end Desk

end DesktopAgent.Display
