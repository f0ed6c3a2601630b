import DesktopAgent.Proofs.Display.Operation

/-!
Programs that remember more.

Programs refine others when they do the same and keep more in mind. An executor does not see what
its programs keep in mind, so a run with the finer programs, seen coarsely, is the run with the
coarser ones: what is proved with the help of a finer memory is true without it.
-/

namespace DesktopAgent.Display

variable {σ τ : Type}

/-- An effect with less kept in mind. -/
def Effect.map (view : σ → τ) (effect : Effect σ) : Effect τ :=
  { effect with scene := view effect.scene }

/-- A machine with less kept in mind. -/
def Host.map (view : σ → τ) (host : Host σ) : Host τ :=
  { host with scene := view host.scene }

def Desk.map (view : σ → τ) (desk : Desk σ) : Desk τ :=
  ⟨desk.session, desk.host.map view⟩

/-- Programs that do what coarser ones do. -/
structure Refines (view : σ → τ) (fine : Programs σ) (coarse : Programs τ) : Prop where
  refusal : ∀ argv host, coarse.refusal argv (host.map view) =
    (fine.refusal argv host).map (Prod.map id view)
  effect : ∀ invocation host, coarse.effect invocation (host.map view) =
    (fine.effect invocation host).map view
  idle : ∀ span host, coarse.idle span (host.map view) = Prod.map view id (fine.idle span host)
  delay : ∀ host, coarse.delay (host.map view) = fine.delay host
  untold : ∀ process host, coarse.untold process (host.map view) = fine.untold process host
  permits : ∀ process host, coarse.permits process (host.map view) = fine.permits process host

namespace Refines

variable {view : σ → τ} {fine : Programs σ} {coarse : Programs τ} {config : Config}
  {session : Session}

theorem attempt
    (refines : Refines view fine coarse) (invocation : Invocation) (host : Host σ) :
    (host.map view).attempt coarse invocation =
      Prod.map id (Host.map view) (host.attempt fine invocation) := by
  unfold Host.attempt
  cases invocation.argv with
  | nil => rfl
  | cons program arguments =>
      by_cases zero : ((program :: arguments).any Host.hasZeroByte ||
          invocation.display.any Host.hasZeroByte) = true
      · simp only [zero, if_true]
        rfl
      · simp only [zero]
        rw [refines.refusal]
        cases fine.refusal (program :: arguments) host with
        | none => rfl
        | some refused => rfl

theorem launch
    (refines : Refines view fine coarse) (part : Part) (group : Option Nat)
    (invocation : Invocation) (host : Host σ) :
    (host.map view).launch coarse part group invocation =
      Prod.map id (Host.map view) (host.launch fine part group invocation) := by
  unfold Host.launch
  rw [refines.attempt]
  obtain ⟨result, after⟩ := host.attempt fine invocation
  cases result with
  | error problem => rfl
  | ok _ => rfl

theorem runCommand
    (refines : Refines view fine coarse) (invocation : Invocation) (host : Host σ) :
    (host.map view).runCommand coarse invocation =
      Prod.map id (Host.map view) (host.runCommand fine invocation) := by
  unfold Host.runCommand
  rw [refines.attempt]
  obtain ⟨result, after⟩ := host.attempt fine invocation
  cases result with
  | error problem => rfl
  | ok _ =>
      simp only [Prod.map_apply, id_eq, refines.effect]
      rfl

theorem pause (refines : Refines view fine coarse) (span : Span) (host : Host σ) :
    (host.map view).pause coarse span = (host.pause fine span).map view := by
  unfold Host.pause
  rw [refines.idle]
  rfl

theorem readClock (refines : Refines view fine coarse) (host : Host σ) :
    (host.map view).readClock coarse = Prod.map id (Host.map view) (host.readClock fine) := by
  unfold Host.readClock
  rw [refines.delay]
  rfl

/-! ## The session -/

theorem run
    (refines : Refines view fine coarse) (argv extra : List String) (host : Host σ) :
    session.run coarse argv extra (host.map view) =
      Prod.map id (Host.map view) (session.run fine argv extra host) := by
  unfold Session.run
  rw [refines.runCommand]
  rfl

theorem framebufferEnded (refines : Refines view fine coarse) (host : Host σ) :
    session.framebufferEnded coarse (host.map view) = session.framebufferEnded fine host := by
  unfold Session.framebufferEnded
  cases session.framebuffer with
  | none => rfl
  | some framebuffer =>
      dsimp only
      rw [Host.hasEnded?, refines.untold]
      rfl

theorem isHealthy (refines : Refines view fine coarse) (host : Host σ) :
    session.isHealthy coarse (host.map view) = session.isHealthy fine host := by
  unfold Session.isHealthy
  cases session.framebuffer with
  | none => rfl
  | some framebuffer =>
      dsimp only
      rw [Host.hasEnded?, Host.takesSignal, refines.untold, refines.permits]
      rfl

theorem stop (host : Host σ) :
    session.stop (host.map view) = Prod.map id (Host.map view) (session.stop host) := by
  unfold Session.stop
  cases session.isRunning with
  | true => rfl
  | false => rfl

theorem drop (host : Host σ) :
    session.drop (host.map view) = (session.drop host).map view := by
  unfold Session.drop
  cases session.isRunning with
  | true => rfl
  | false => rfl

theorem probe (refines : Refines view fine coarse) (host : Host σ) :
    session.probe coarse config (host.map view) =
      Prod.map id (Host.map view) (session.probe fine config host) := by
  unfold Session.probe
  rw [refines.framebufferEnded, refines.run]
  cases session.framebufferEnded fine host with
  | true => rfl
  | false =>
      obtain ⟨result, after⟩ := session.run fine config.probe [] host
      cases result with
      | error problem => rfl
      | ok output =>
          cases success : output.success with
          | false => simp [success]
          | true =>
              simp only [Prod.map_apply, id_eq, success, refines.framebufferEnded]
              rfl

theorem awaitReady (refines : Refines view fine coarse) (deadline : Nat) (host : Host σ) :
    session.awaitReady coarse config deadline (host.map view) =
      Prod.map id (Host.map view) (session.awaitReady fine config deadline host) := by
  induction host using Session.awaitReady.induct fine config session deadline with
  | case1 host _ readiness settled =>
      rw [Session.awaitReady, Session.awaitReady, refines.probe]
      simp only [Prod.map_fst, id_eq]
      rw [settled]
      rfl
  | case2 host _ unsettled _ inTime inductionHypothesis =>
      rw [Session.awaitReady, Session.awaitReady, refines.probe]
      simp only [Prod.map_fst, Prod.map_snd, id_eq, refines.readClock]
      rw [unsettled, if_pos inTime, if_pos inTime, refines.pause]
      exact inductionHypothesis
  | case3 host _ unsettled _ late =>
      rw [Session.awaitReady, Session.awaitReady, refines.probe]
      simp only [Prod.map_fst, Prod.map_snd, id_eq, refines.readClock]
      rw [unsettled, if_neg late, if_neg late]
      rfl

theorem waitUntilReady (refines : Refines view fine coarse) (host : Host σ) :
    session.waitUntilReady coarse config (host.map view) =
      Prod.map id (Host.map view) (session.waitUntilReady fine config host) := by
  unfold Session.waitUntilReady
  rw [refines.readClock]
  simp only [Prod.map_fst, Prod.map_snd, id_eq]
  rw [refines.awaitReady]
  generalize session.awaitReady fine config _ (host.readClock fine).2 = waiting
  obtain ⟨readiness, waited⟩ := waiting
  cases readiness with
  | ready => rfl
  | notReady =>
      simp only [Prod.map_apply, id_eq]
      rw [refines.readClock]
      rfl

theorem launchApp
    (refines : Refines view fine coarse) (part : Part) (argv : Argv) (settle : Span)
    (host : Host σ) :
    session.launchApp coarse part argv settle (host.map view) =
      Prod.map id (Host.map view) (session.launchApp fine part argv settle host) := by
  unfold Session.launchApp
  rw [refines.launch]
  by_cases none : argv.isEmpty
  · rw [if_pos none, if_pos none]
    rfl
  · rw [if_neg none, if_neg none]
    generalize host.launch fine part (some session.group) ⟨argv, some session.display⟩ = launch
    obtain ⟨result, after⟩ := launch
    cases result with
    | error problem => rfl
    | ok _ => exact congrArg (Prod.mk _) (refines.pause settle after)

theorem launchApps (refines : Refines view fine coarse) (host : Host σ) :
    session.launchApps coarse config (host.map view) =
      Prod.map id (Host.map view) (session.launchApps fine config host) := by
  unfold Session.launchApps
  rw [refines.launchApp]
  obtain ⟨result, after⟩ := session.launchApp fine .windowManager config.windowManager
    config.windowManagerSettle host
  cases result with
  | error problem => rfl
  | ok _ => exact refines.launchApp .browser config.browser config.browserSettle after

theorem start (refines : Refines view fine coarse) (name : String) (host : Host σ) :
    Session.start coarse config name (host.map view) =
      Prod.map id (Host.map view) (Session.start fine config name host) := by
  unfold Session.start
  rw [refines.launch]
  obtain ⟨result, after⟩ :=
    host.launch fine .framebuffer none (Session.framebufferInvocation config)
  cases result with
  | error problem => rfl
  | ok framebuffer =>
      simp only [Prod.map_apply, id_eq]
      rw [refines.waitUntilReady]
      generalize Session.waitUntilReady fine config _ after = waiting
      obtain ⟨result, waited⟩ := waiting
      cases result with
      | error failure =>
          simp only [Prod.map_apply, id_eq]
          rw [stop]
          rfl
      | ok _ =>
          simp only [Prod.map_apply, id_eq]
          rw [refines.launchApps]
          generalize Session.launchApps fine config _ waited = serving
          obtain ⟨result, served⟩ := serving
          cases result with
          | error problem =>
              simp only [Prod.map_apply, id_eq]
              rw [stop]
              rfl
          | ok _ => rfl

/-! ## The executor -/

theorem capture (refines : Refines view fine coarse) (host : Host σ) :
    Desk.capture coarse config session (host.map view) =
      Prod.map id (Host.map view) (Desk.capture fine config session host) := by
  unfold Desk.capture
  rw [refines.run]
  obtain ⟨result, after⟩ := session.run fine config.capture ["-o", session.picture] host
  cases result with
  | error problem => rfl
  | ok output =>
      cases success : output.success with
      | false => simp [success]
      | true =>
          simp only [Prod.map_apply, id_eq, success, if_true]
          rw [show (after.map view).files = after.files from rfl]
          cases after.files.read? session.picture with
          | none => rfl
          | some bytes => rfl

theorem input
    (refines : Refines view fine coarse) (arguments : List String) (host : Host σ) :
    Desk.input coarse config session arguments (host.map view) =
      Prod.map id (Host.map view) (Desk.input fine config session arguments host) := by
  unfold Desk.input
  rw [refines.run]
  obtain ⟨result, after⟩ := session.run fine config.input arguments host
  cases result with
  | error problem => rfl
  | ok output => rfl

theorem inputAll (refines : Refines view fine coarse) (commands : List (List String)) :
    ∀ host : Host σ, Desk.inputAll coarse config session commands (host.map view) =
      (Desk.inputAll fine config session commands host).map view := by
  induction commands with
  | nil => exact fun _ => rfl
  | cons arguments rest inductionHypothesis =>
      intro host
      change Desk.inputAll coarse config session rest
        (Desk.input coarse config session arguments (host.map view)).2 = _
      rw [refines.input]
      exact inductionHypothesis _

theorem executeIn
    (refines : Refines view fine coarse) (action : Action) (host : Host σ) :
    Desk.executeIn coarse config session action (host.map view) =
      Prod.map id (Host.map view) (Desk.executeIn fine config session action host) := by
  cases action
  case cursorPosition =>
    simp only [Desk.executeIn]
    rw [refines.input]
    rfl
  all_goals
    simp only [Desk.executeIn]
    rw [refines.inputAll, refines.pause, refines.capture]
    rfl

theorem perform
    (refines : Refines view fine coarse) (desk : Desk σ) (operation : Operation) :
    Desk.perform coarse config (desk.map view) operation =
      Prod.map id (Desk.map view) (Desk.perform fine config desk operation) := by
  obtain ⟨held, host⟩ := desk
  cases operation with
  | start name =>
      cases held with
      | some session => rfl
      | none =>
          simp only [Desk.perform, Desk.start, Desk.map]
          rw [refines.start]
          obtain ⟨result, after⟩ := Session.start fine config name host
          cases result with
          | error failure => rfl
          | ok session => rfl
  | stop =>
      cases held with
      | none => rfl
      | some session =>
          simp only [Desk.perform, Desk.stop, Desk.map]
          rw [stop]
          rfl
  | drop =>
      cases held with
      | none => rfl
      | some session =>
          simp only [Desk.perform, Desk.drop, Desk.map]
          rw [drop]
          rfl
  | isHealthy =>
      cases held with
      | none => rfl
      | some session =>
          simp only [Desk.perform, Desk.isHealthy, Desk.map, Option.any_some]
          rw [refines.isHealthy]
          rfl
  | screenshot =>
      cases held with
      | none => rfl
      | some session =>
          simp only [Desk.perform, Desk.screenshot, Desk.map]
          rw [refines.capture]
          rfl
  | execute action =>
      cases held with
      | none => rfl
      | some session =>
          simp only [Desk.perform, Desk.execute, Desk.map]
          rw [refines.executeIn]
          rfl
  | death process => rfl

/-- Seen coarsely, a run with the finer programs is the run with the coarser ones. -/
theorem performAll
    (refines : Refines view fine coarse) (operations : List Operation) :
    ∀ desk : Desk σ, Desk.performAll coarse config (desk.map view) operations =
      Prod.map id (Desk.map view) (Desk.performAll fine config desk operations) := by
  induction operations with
  | nil => exact fun _ => rfl
  | cons operation rest inductionHypothesis =>
      intro desk
      simp only [Desk.performAll]
      rw [refines.perform]
      simp only [Prod.map]
      rw [inductionHypothesis]
      rfl

end Refines

end DesktopAgent.Display
