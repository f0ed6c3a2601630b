import DesktopAgent.Proofs.Display.Lifecycle
import DesktopAgent.Proofs.Display.Refinement

/-!
An executor leaves no process and no picture behind.

Everything alive belongs to the session that is held. To say the same of pictures, the programs are
refined to remember which files captures made: the only file that is there as a picture is that of
the session that is held, whatever the other tools do to any file.
-/

namespace DesktopAgent.Display

open DesktopAgent.Text

variable {τ : Type} {programs : Programs τ} {config : Config}

/-- A command that takes a picture of a session, which a probe never is. -/
def IsCapture (config : Config) (argv : Argv) : Prop :=
  (∃ id, argv = config.capture ++ ["-o", Session.pictureOf config id]) ∧ argv ≠ config.probe

/-- The capture command changes no file but the one it is given. -/
def CapturesOnlyItsFile (programs : Programs τ) (config : Config) : Prop :=
  config.capture ≠ [] → ∀ (path other : String) (display : Option String) (host : Host τ),
    other ≠ path →
      (programs.effect ⟨config.capture ++ ["-o", path], display⟩ host).files.read? other =
        host.files.read? other

theorem pictureOf_ne_locate (id : String) :
    Session.pictureOf config id ≠ "getmouselocation" := by
  have ends : (Session.pictureOf config id).toList.getLast? = some 'g' := by
    have joined (directory name : String) : ∃ lead,
        Session.join directory name = lead ++ name := by
      unfold Session.join
      by_cases whole : (directory.isEmpty || directory.endsWith "/") = true
      · exact ⟨directory, if_pos whole⟩
      · exact ⟨directory ++ "/", if_neg whole⟩
    obtain ⟨lead, same⟩ :=
      joined config.screenshotDir (Session.picturePrefix ++ id ++ ".png")
    rw [Session.pictureOf, same]
    simp [String.toList_append, List.getLast?_append]
  intro same
  rw [same] at ends
  revert ends
  decide

/-- No input command takes a picture, whatever the programs are called. -/
theorem IsInput.not_capture {arguments : List String} (isInput : IsInput config arguments) :
    ¬ IsCapture config (config.input ++ arguments) := by
  rintro ⟨⟨id, same⟩, _⟩
  rcases isInput.ending with rfl | ⟨lead, second, last, rfl, notOption⟩
  · have ends := congrArg List.getLast? same
    simp [locateArguments] at ends
    exact pictureOf_ne_locate id ends.symm
  · rw [← List.append_assoc] at same
    have ends := (List.append_inj' same rfl).2
    cases ends
    exact notOption rfl

/-- What programs keep in mind, with the files that captures made. -/
structure Remembering (τ : Type) where
  scene : τ
  captured : String → Prop

/-- Programs that remember which files captures made. A file that a command changes is captured from
then on when the command is a capture, and otherwise it is not; what is not changed stays so. -/
def Programs.remembering (programs : Programs τ) (config : Config) :
    Programs (Remembering τ) where
  refusal argv host :=
    (programs.refusal argv (host.map Remembering.scene)).map
      (Prod.map id fun scene => ⟨scene, host.scene.captured⟩)
  effect invocation host :=
    let effect := programs.effect invocation (host.map Remembering.scene)
    effect.map fun scene => ⟨scene, fun path =>
      if effect.files.read? path = host.files.read? path then host.scene.captured path
      else IsCapture config invocation.argv⟩
  idle span host :=
    Prod.map (fun scene => ⟨scene, host.scene.captured⟩) id
      (programs.idle span (host.map Remembering.scene))
  delay host := programs.delay (host.map Remembering.scene)
  untold process host := programs.untold process (host.map Remembering.scene)
  permits process host := programs.permits process (host.map Remembering.scene)

/-- A machine of which no capture is remembered. -/
def Host.unremembering (host : Host τ) : Host (Remembering τ) :=
  host.map fun scene => ⟨scene, fun _ => False⟩

theorem refines_remembering :
    Refines Remembering.scene (programs.remembering config) programs where
  refusal argv host := by
    simp only [Programs.remembering]
    cases programs.refusal argv (host.map Remembering.scene) with
    | none => rfl
    | some refused => rfl
  effect _ _ := rfl
  idle _ _ := rfl
  delay _ := rfl
  untold _ _ := rfl
  permits _ _ := rfl

/-- A file that is there and that a capture made. -/
def Host.IsPicture (host : Host (Remembering τ)) (path : String) : Prop :=
  host.files.read? path ≠ none ∧ host.scene.captured path

/-- The pictures of a machine are those that it had before, and one more at most. -/
def PicturesFrom (own : Option String) (before after : Host (Remembering τ)) : Prop :=
  ∀ path, after.IsPicture path → own = some path ∨ before.IsPicture path

theorem picturesFrom_passage (own : Option String) :
    Passage (programs.remembering config) (PicturesFrom own) where
  refl _ _ picture := Or.inr picture
  trans first second path picture := (second path picture).elim Or.inl (first path)
  pause _ _ _ picture := Or.inr picture
  readClock _ _ picture := Or.inr picture

/-- What a command that could not be started leaves is remembered as before. -/
theorem Host.LeftWith.captured
    {argv : Argv} {host : Host (Remembering τ)} {scene : Remembering τ}
    (left : host.LeftWith (programs.remembering config) argv scene) :
    scene.captured = host.scene.captured := by
  rcases left with rfl | ⟨reason, refused⟩
  · rfl
  · obtain ⟨⟨_, state⟩, _, same⟩ := Option.map_eq_some_iff.mp refused
    cases same
    rfl

theorem Host.LeftWith.isPicture
    {argv : Argv} {host : Host (Remembering τ)} {scene : Remembering τ} {path : String}
    (left : host.LeftWith (programs.remembering config) argv scene)
    (picture : Host.IsPicture { host with scene := scene } path) : host.IsPicture path :=
  ⟨picture.1, left.captured ▸ picture.2⟩

/-- A picture after a command was one before, or the command is a capture that made it. -/
theorem picture_of_effect
    {invocation : Invocation} {host : Host (Remembering τ)} {path : String}
    (present : ((programs.remembering config).effect invocation host).files.read? path ≠ none)
    (captured : ((programs.remembering config).effect invocation host).scene.captured path) :
    host.IsPicture path ∨ IsCapture config invocation.argv ∧
      (programs.effect invocation (host.map Remembering.scene)).files.read? path ≠
        host.files.read? path := by
  change (programs.effect invocation (host.map Remembering.scene)).files.read? path ≠ none
    at present
  change if (programs.effect invocation (host.map Remembering.scene)).files.read? path =
    host.files.read? path then host.scene.captured path else IsCapture config invocation.argv
    at captured
  by_cases same : (programs.effect invocation (host.map Remembering.scene)).files.read? path =
      host.files.read? path
  · rw [if_pos same] at captured
    exact Or.inl ⟨same ▸ present, captured⟩
  · rw [if_neg same] at captured
    exact Or.inr ⟨captured, same⟩

/-- A run makes pictures only of the files that a capture may change. -/
theorem leadsOn_pictures
    {own : Option String} {session : Session} {argv extra : List String}
    (captures : argv ≠ [] → IsCapture config (argv ++ extra) →
      ∀ (host : Host τ) (path : String), own ≠ some path →
        (programs.effect ⟨argv ++ extra, some session.display⟩ host).files.read? path =
          host.files.read? path) :
    LeadsOn (programs.remembering config) (PicturesFrom own)
      (session.invocation argv extra) := by
  intro host path picture
  cases argv with
  | nil => exact Or.inr picture
  | cons program arguments =>
      generalize ran : host.runCommand (programs.remembering config)
        (session.invocation (program :: arguments) extra) = run at picture
      obtain ⟨result, after⟩ := run
      rcases Host.runCommand_cases ran with ⟨problem, scene, _, left, rfl⟩ | ⟨_, rfl⟩
      · exact Or.inr (left.isPicture picture)
      · rcases picture_of_effect picture.1 picture.2 with before | ⟨isCapture, changed⟩
        · exact Or.inr before
        · by_cases isOwn : own = some path
          · exact Or.inl isOwn
          · exact absurd (captures (List.cons_ne_nil _ _) isCapture _ path isOwn) changed

/-- A probe is no capture. -/
theorem leadsOn_probe (own : Option String) (session : Session) :
    LeadsOn (programs.remembering config) (PicturesFrom own)
      (session.invocation config.probe []) :=
  leadsOn_pictures fun _ isCapture =>
    absurd (List.append_nil config.probe) isCapture.2

/-- Within a session only the session's picture is made. -/
theorem actionsLeadOn_pictures
    (captures : CapturesOnlyItsFile programs config) (session : Session) :
    ActionsLeadOn (programs.remembering config) config (PicturesFrom (some session.picture))
      session where
  capture := leadsOn_pictures fun given _ host path another =>
    captures given session.picture path _ host fun same => another (congrArg some same.symm)
  input _ isInput := leadsOn_pictures fun _ isCapture => absurd isCapture isInput.not_capture

namespace Session

variable {session : Session} {path : String}

/-- Stopping removes the session's picture and makes none. -/
theorem picture_of_stop
    {host : Host (Remembering τ)} (picture : (session.stop host).2.IsPicture path) :
    session.picture ≠ path ∧ host.IsPicture path := by
  have files : (session.stop host).2.files = host.files.remove session.picture := by
    unfold stop
    cases session.isRunning with
    | true => rfl
    | false => rfl
  have captured : (session.stop host).2.scene = host.scene := by
    unfold stop
    cases session.isRunning with
    | true => rfl
    | false => rfl
  obtain ⟨present, made⟩ := picture
  rw [files] at present
  rw [captured] at made
  by_cases own : session.picture = path
  · rw [own] at present
    exact absurd (host.files.read?_remove path) present
  · rw [host.files.read?_remove_of_ne (Ne.symm own)] at present
    exact ⟨own, present, made⟩

theorem picture_of_launchApp
    {part : Part} {argv : Argv} {settle : Span} {host : Host (Remembering τ)}
    (picture :
      (session.launchApp (programs.remembering config) part argv settle host).2.IsPicture path) :
    host.IsPicture path := by
  generalize launches : session.launchApp (programs.remembering config) part argv settle host =
    launch at picture
  obtain ⟨result, later⟩ := launch
  rcases launchApp_cases launches with ⟨scene, left, rfl⟩ | ⟨process, _, _, _, rfl⟩
  · exact left.isPicture picture
  · exact picture

theorem picture_of_launchApps
    {host : Host (Remembering τ)}
    (picture :
      (session.launchApps (programs.remembering config) config host).2.IsPicture path) :
    host.IsPicture path := by
  have managed (picture : (session.launchApp (programs.remembering config) .windowManager
      config.windowManager config.windowManagerSettle host).2.IsPicture path) :
      host.IsPicture path :=
    picture_of_launchApp picture
  unfold launchApps at picture
  generalize session.launchApp (programs.remembering config) .windowManager
    config.windowManager config.windowManagerSettle host = launch at managed picture
  obtain ⟨result, later⟩ := launch
  cases result with
  | error problem => exact managed picture
  | ok _ => exact managed (picture_of_launchApp picture)

/-- After a start each picture is that of the session that it gives or was there before. -/
theorem Start.picturesFrom
    {id : String} {host after : Host (Remembering τ)} {result : Except Failure Session}
    (start : Start (programs.remembering config) config id host result after) :
    PicturesFrom (result.toOption.map (·.picture)) host after := by
  intro path picture
  have launched {result : Except SpawnProblem Nat} {launched : Host (Remembering τ)}
      (launches : Launches (programs.remembering config) config host result launched)
      (picture : launched.IsPicture path) : host.IsPicture path := by
    rcases Host.launch_cases launches with ⟨_, scene, _, left, rfl⟩ | ⟨_, _, rfl⟩
    · exact left.isPicture picture
    · exact picture
  have waited {session : Session} {before after : Host (Remembering τ)}
      {result : Except Failure Unit}
      (waits : waitUntilReady (programs.remembering config) config session before =
        (result, after)) : PicturesFrom (some session.picture) before after := by
    have passage : Passage (programs.remembering config)
        (PicturesFrom (some session.picture)) := picturesFrom_passage _
    have later := passage.waitUntilReady (leadsOn_probe _ session) before
    rwa [waits] at later
  have served {session : Session} {before after : Host (Remembering τ)}
      {result : Except SpawnProblem Unit}
      (serves : launchApps (programs.remembering config) config session before =
        (result, after)) (picture : after.IsPicture path) : before.IsPicture path := by
    have later : (launchApps (programs.remembering config) config session before).2.IsPicture
        path := by rwa [serves]
    exact picture_of_launchApps later
  -- A start that fails after the framebuffer was launched stops the session, which removes the one
  -- picture that waiting could have brought.
  cases start with
  | unlaunched launches => exact Or.inr (launched launches picture)
  | unready launches waits =>
      obtain ⟨another, picture⟩ := picture_of_stop picture
      rcases waited waits path picture with own | picture
      · exact absurd (Option.some.inj own) another
      · exact Or.inr (launched launches picture)
  | unserved launches waits serves =>
      obtain ⟨another, picture⟩ := picture_of_stop picture
      rcases waited waits path (served serves picture) with own | picture
      · exact absurd (Option.some.inj own) another
      · exact Or.inr (launched launches picture)
  | started launches waits serves =>
      rcases waited waits path (served serves picture) with own | picture
      · exact Or.inl own
      · exact Or.inr (launched launches picture)

end Session

namespace Desk

variable {desk : Desk (Remembering τ)}

/-- The only picture is that of the session that is held. -/
def HasOnlyItsPicture (desk : Desk (Remembering τ)) : Prop :=
  ∀ path, desk.host.IsPicture path → desk.session.map (·.picture) = some path

theorem HasOnlyItsPicture.none
    (only : desk.HasOnlyItsPicture) (idle : desk.session = none) (path : String) :
    ¬ desk.host.IsPicture path := by
  intro picture
  have own := only path picture
  rw [idle] at own
  cases own

theorem HasOnlyItsPicture.stop
    (only : desk.HasOnlyItsPicture) (path : String) : ¬ desk.stop.host.IsPicture path := by
  intro picture
  cases held : desk.session with
  | none =>
      rw [stop_of_idle held] at picture
      exact only.none held path picture
  | some session =>
      rw [stop_of_held held] at picture
      obtain ⟨another, before⟩ := Session.picture_of_stop picture
      have own := only path before
      rw [held] at own
      exact another (Option.some.inj own)

theorem HasOnlyItsPicture.start (only : desk.HasOnlyItsPicture) (id : String) :
    (Desk.start (programs.remembering config) config id desk).2.HasOnlyItsPicture := by
  cases held : desk.session with
  | some session =>
      rw [start_of_held id held]
      exact only
  | none =>
      rw [start_of_idle id held]
      intro path picture
      have started :=
        Session.start_goes (programs.remembering config) config id desk.host
      rcases started.picturesFrom path picture with own | before
      · exact own
      · exact absurd before (only.none held path)

theorem HasOnlyItsPicture.within
    (only : desk.HasOnlyItsPicture) (captures : CapturesOnlyItsFile programs config)
    {operation : Operation} (within : operation.isWithin = true) :
    (Desk.perform (programs.remembering config) config desk operation).2.HasOnlyItsPicture := by
  have actions : ∀ session, desk.session = some session →
      ActionsLeadOn (programs.remembering config) config
        (PicturesFrom (desk.session.map (·.picture))) session := by
    intro session held
    rw [held]
    exact actionsLeadOn_pictures captures session
  obtain ⟨after, same, later⟩ :=
    perform_within (picturesFrom_passage _) actions (fun _ _ _ picture => Or.inr picture) within
  rw [same]
  intro path picture
  rcases later path picture with own | before
  · exact own
  · exact only path before

theorem HasOnlyItsPicture.perform
    (only : desk.HasOnlyItsPicture) (inOrder : desk.InOrder)
    (captures : CapturesOnlyItsFile programs config) (operation : Operation) :
    (Desk.perform (programs.remembering config) config desk operation).2.HasOnlyItsPicture := by
  cases within : operation.isWithin with
  | true => exact only.within captures within
  | false =>
      have stopped : desk.stop.HasOnlyItsPicture :=
        fun path picture => absurd picture (only.stop path)
      cases operation with
      | start id => exact only.start id
      | stop => exact stopped
      | drop =>
          change desk.drop.HasOnlyItsPicture
          rw [← inOrder.stop_eq_drop]
          exact stopped
      | _ => cases within

/-- What may be alive and which pictures there may be. -/
structure Tidy (desk : Desk (Remembering τ)) : Prop where
  processes : ∀ process ∈ desk.host.processes,
    desk.session.map (·.group) = some process.group
  framebuffers : desk.host.processes.countP (fun process => process.part = .framebuffer) ≤ 1
  pictures : ∀ path, desk.host.IsPicture path → desk.session.map (·.picture) = some path
  idle : desk.session = none →
    desk.host.processes = [] ∧ ∀ path, ¬ desk.host.IsPicture path
  stopped : desk.stop.session = none ∧ desk.stop.host.processes = [] ∧
    ∀ path, ¬ desk.stop.host.IsPicture path
  dropped : desk.drop = desk.stop

theorem InOrder.tidy (inOrder : desk.InOrder) (only : desk.HasOnlyItsPicture) : Tidy desk where
  processes := by
    intro process member
    cases held : desk.session with
    | none =>
        rw [inOrder.empty held] at member
        cases member
    | some session => exact congrArg some ((inOrder.owns held).grouped process member).symm
  framebuffers := by
    cases held : desk.session with
    | none =>
        rw [inOrder.empty held]
        exact Nat.zero_le 1
    | some session => exact (inOrder.owns held).alone
  pictures := only
  idle idle := ⟨inOrder.empty idle, only.none idle⟩
  stopped := ⟨stop_session, inOrder.stop.empty stop_session, only.stop⟩
  dropped := inOrder.stop_eq_drop.symm

/-- After any sequence of operations on a machine on which nothing was alive, everything alive and
every picture belong to the session that is held, and stopping it or giving it up leaves neither.
The memory of captures changes nothing that is done. -/
theorem tidy_of_performAll
    (captures : CapturesOnlyItsFile programs config) {host : Host τ}
    (empty : host.processes = []) (operations : List Operation) :
    performAll programs config (idle host) operations =
      Prod.map id (Desk.map Remembering.scene)
        (performAll (programs.remembering config) config (idle host.unremembering)
          operations) ∧
    Tidy (performAll (programs.remembering config) config (idle host.unremembering)
      operations).2 := by
  refine ⟨refines_remembering.performAll operations (idle host.unremembering), ?_⟩
  have both := performAll_keeps (fun desk => desk.InOrder ∧ desk.HasOnlyItsPicture)
    (fun _ operation holds =>
      ⟨holds.1.perform operation, holds.2.perform holds.1 captures operation⟩)
    operations (idle host.unremembering) ⟨empty, fun _ picture => picture.2.elim⟩
  exact both.1.tidy both.2

theorem rehearsedConfig_captures : CapturesOnlyItsFile Rehearsal.programs rehearsedConfig := by
  intro _ path other display host different
  have isCapture : Rehearsal.Tool.ofArgv? (rehearsedConfig.capture ++ ["-o", path]) =
      some .capture := by
    change Rehearsal.Tool.ofProgram? Rehearsal.Tool.capture.program = some .capture
    decide
  change (Rehearsal.ownEffect ⟨rehearsedConfig.capture ++ ["-o", path], display⟩
    host).files.read? other = _
  unfold Rehearsal.ownEffect
  simp only [isCapture]
  unfold Rehearsal.captureEffect
  change (if _ then host.files.write path _ else host.files : Files).read? other = _
  split
  · exact host.files.read?_write_of_ne _ different
  · rfl

/-- The framebuffer, which is process 2, has died; the other two processes and the picture are still
there and belong to the session that is held. -/
theorem tidy_of_rehearsedOperations :
    (performAll Rehearsal.programs rehearsedConfig (idle (.fresh rehearsedStage))
      rehearsedOperations).2.host.processes.map (fun process => (process.part, process.group)) =
        [(.windowManager, 2), (.browser, 2)] ∧
    (performAll (Rehearsal.programs.remembering rehearsedConfig) rehearsedConfig
      (idle (Host.unremembering (.fresh rehearsedStage))) rehearsedOperations).2.host.IsPicture
        (Session.pictureOf rehearsedConfig "second") ∧
    Tidy (performAll (Rehearsal.programs.remembering rehearsedConfig) rehearsedConfig
      (idle (Host.unremembering (.fresh rehearsedStage))) rehearsedOperations).2 := by
  have file : (performAll (Rehearsal.programs.remembering rehearsedConfig) rehearsedConfig
      (idle (Host.unremembering (.fresh rehearsedStage)))
        rehearsedOperations).2.host.files.read? (Session.pictureOf rehearsedConfig
          "second") = some Rehearsal.Stage.emptyScreen := by
    with_unfolding_all rfl
  have isCapture : IsCapture rehearsedConfig (rehearsedConfig.capture ++
      ["-o", Session.pictureOf rehearsedConfig "second"]) :=
    ⟨⟨"second", rfl⟩, by decide⟩
  refine ⟨?_, ⟨?_, ?_⟩, (tidy_of_performAll rehearsedConfig_captures rfl rehearsedOperations).2⟩
  · with_unfolding_all rfl
  · rw [file]
    rintro ⟨⟩
  · with_unfolding_all exact isCapture

end Desk

end DesktopAgent.Display
