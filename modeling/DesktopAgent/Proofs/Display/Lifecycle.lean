import DesktopAgent.Proofs.Display.Operation
import DesktopAgent.Rehearsal.Desktop

/-!
The states that an executor goes through.

An executor holds a session or holds none, and which of the two decides what each operation does.
The main statement is about the state after any sequence of operations, with processes dying in
between.
-/

namespace DesktopAgent.Display

variable {τ : Type} {programs : Programs τ} {config : Config}

/-- A start that is carried out does not fail as one that is refused. -/
theorem Session.Start.ne_alreadyStarted
    {id : String} {host after : Host τ} {result : Except Failure Session}
    (start : Start programs config id host result after) :
    result ≠ .error .displayAlreadyStarted := by
  cases start with
  | unlaunched _ => rintro ⟨⟩
  | unready _ waits =>
      obtain ⟨waited, rfl⟩ := failure_of_waitUntilReady waits
      rintro ⟨⟩
  | unserved _ _ _ => rintro ⟨⟩
  | started _ _ _ => rintro ⟨⟩

/-- A system that tells of each live process that it has not ended, and permits a signal to it. -/
structure Programs.TellsOfLive (programs : Programs τ) : Prop where
  told : ∀ (process : Nat) (host : Host τ),
    host.isAlive process = true → programs.untold process host = false
  permitted : ∀ (process : Nat) (host : Host τ),
    host.isAlive process = true → programs.permits process host = true

namespace Desk

variable {desk : Desk τ} {session : Session}

theorem pictureResult_ne_notStarted
    {α : Type} (view : String → α) (result : Except CaptureProblem String) :
    pictureResult view result ≠ .error .displayNotStarted := by
  cases result with
  | ok base64 => rintro ⟨⟩
  | error problem => rintro ⟨⟩

theorem executeIn_ne_notStarted (action : Action) (host : Host τ) :
    (executeIn programs config session action host).1 ≠ .error .displayNotStarted := by
  cases action
  case cursorPosition => rintro ⟨⟩
  all_goals exact pictureResult_ne_notStarted Observation.screenshot _

/-- A live process that is the framebuffer of the session that is held. -/
structure Serves (desk : Desk τ) (process : Process) : Prop where
  alive : process ∈ desk.host.processes
  isFramebuffer : process.part = .framebuffer
  held : ∃ session, desk.session = some session ∧ session.framebuffer = some process.id ∧
    process.group = session.group

/-- A framebuffer that has ended stays so. -/
theorem Serves.of_aged
    {after : Host τ} {process : Process} (serves : Serves ⟨desk.session, after⟩ process)
    (aged : desk.host.Aged after) : desk.Serves process :=
  ⟨aged.processes.subset serves.alive, serves.isFramebuffer, serves.held⟩

theorem not_serves_of_idle (idle : desk.session = none) (process : Process) :
    ¬ desk.Serves process := by
  rintro ⟨_, _, session, held, _⟩
  rw [idle] at held
  cases held

/-- What a health check finds of an executor in order: there is a live framebuffer, the system tells
that it has not ended, and it takes signals. -/
theorem InOrder.isHealthy_iff (inOrder : desk.InOrder) :
    desk.isHealthy programs = true ↔
      ∃ process, desk.Serves process ∧ programs.untold process.id desk.host = false ∧
        programs.permits process.id desk.host = true := by
  cases held : desk.session with
  | none =>
      rw [isHealthy, held]
      exact iff_of_false Bool.false_ne_true
        fun ⟨process, serves, _⟩ => not_serves_of_idle held process serves
  | some session =>
      have owns := inOrder.owns held
      rw [isHealthy, held, Option.any_some, owns.isHealthy_iff]
      constructor
      · rintro ⟨⟨process, member, isFramebuffer⟩, told, permitted⟩
        have leads : process.id = session.group := (owns.leads process member).mp isFramebuffer
        rw [← leads] at told permitted
        exact ⟨process, ⟨member, isFramebuffer, session, held, leads ▸ owns.running,
          owns.grouped process member⟩, told, permitted⟩
      · rintro ⟨process, ⟨member, isFramebuffer, _⟩, told, permitted⟩
        have leads : process.id = session.group := (owns.leads process member).mp isFramebuffer
        rw [leads] at told permitted
        exact ⟨⟨process, member, isFramebuffer⟩, told, permitted⟩

/-- Where the system tells, an executor is healthy while the framebuffer of its session lives. -/
theorem InOrder.isHealthy_iff_serves
    (inOrder : desk.InOrder) (tells : programs.TellsOfLive) :
    desk.isHealthy programs = true ↔ ∃ process, desk.Serves process := by
  rw [inOrder.isHealthy_iff]
  constructor
  · rintro ⟨process, serves, _⟩
    exact ⟨process, serves⟩
  · rintro ⟨process, serves⟩
    have isAlive : desk.host.isAlive process.id = true :=
      List.any_eq_true.mpr ⟨process, serves.alive, decide_eq_true rfl⟩
    exact ⟨process, serves, tells.told process.id desk.host isAlive,
      tells.permitted process.id desk.host isAlive⟩

/-- An executor without a live framebuffer gets one by no operation but a start that succeeds. -/
theorem not_serves_perform
    (operation : Operation) (dead : ∀ process, ¬ desk.Serves process)
    (notStarted : (perform programs config desk operation).1 ≠ .started (.ok ())) :
    ∀ process, ¬ (perform programs config desk operation).2.Serves process := by
  cases within : operation.isWithin with
  | true =>
      obtain ⟨after, same, aged⟩ := perform_aged programs config desk within
      rw [same]
      intro process serves
      exact dead process (serves.of_aged aged)
  | false =>
      cases operation with
      | start id =>
          rw [perform] at notStarted ⊢
          cases held : desk.session with
          | some session =>
              rw [start_of_held id held]
              exact dead
          | none =>
              rw [start_of_idle id held] at notStarted ⊢
              cases result : (Session.start programs config id desk.host).1 with
              | error failure => exact not_serves_of_idle rfl
              | ok session =>
                  rw [result] at notStarted
                  exact absurd rfl notStarted
      | stop => exact not_serves_of_idle stop_session
      | drop => exact not_serves_of_idle drop_session
      | _ => cases within

theorem not_serves_until_started
    (operations : List Operation) :
    ∀ desk : Desk τ, (∀ process, ¬ desk.Serves process) →
      Answer.started (.ok ()) ∉ (performAll programs config desk operations).1 →
      ∀ process, ¬ (performAll programs config desk operations).2.Serves process := by
  induction operations with
  | nil =>
      intro desk dead _
      exact dead
  | cons operation rest inductionHypothesis =>
      intro desk dead notStarted
      have first : (perform programs config desk operation).1 ≠ .started (.ok ()) :=
        fun started => notStarted (started ▸ List.mem_cons_self)
      exact inductionHypothesis _ (not_serves_perform operation dead first)
        fun later => notStarted (List.mem_cons_of_mem _ later)

/-- What an executor does with each operation, by whether it holds a session. -/
structure Lawful (programs : Programs τ) (config : Config) (desk : Desk τ) : Prop where
  start_refused_iff : ∀ id,
    (start programs config id desk).1 = .error .displayAlreadyStarted ↔
      ∃ session, desk.session = some session
  start_refused : ∀ id,
    (start programs config id desk).1 = .error .displayAlreadyStarted →
      (start programs config id desk).2 = desk
  start_holds_iff : ∀ id, desk.session = none →
    ((∃ session, (start programs config id desk).2.session = some session) ↔
      (start programs config id desk).1 = .ok ())
  start_failed : ∀ id failure, desk.session = none →
    (start programs config id desk).1 = .error failure →
      (start programs config id desk).2 = idle (start programs config id desk).2.host ∧
        (start programs config id desk).2.host.processes = desk.host.processes
  screenshot_refused_iff :
    (screenshot programs config desk).1 = .error .displayNotStarted ↔ desk.session = none
  screenshot_refused :
    (screenshot programs config desk).1 = .error .displayNotStarted →
      (screenshot programs config desk).2 = desk
  screenshot_keeps : (screenshot programs config desk).2.session = desk.session
  execute_refused_iff : ∀ action,
    (execute programs config action desk).1 = .error .displayNotStarted ↔
      desk.session = none
  execute_refused : ∀ action,
    (execute programs config action desk).1 = .error .displayNotStarted →
      (execute programs config action desk).2 = desk
  execute_keeps : ∀ action,
    (execute programs config action desk).2.session = desk.session
  stop_ends : desk.stop.session = none
  drop_ends : desk.drop.session = none
  stop_idle : desk.session = none → desk.stop = desk
  checked_iff : desk.isHealthy programs = true ↔
    ∃ process, desk.Serves process ∧ programs.untold process.id desk.host = false ∧
      programs.permits process.id desk.host = true
  healthy_iff : programs.TellsOfLive →
    (desk.isHealthy programs = true ↔ ∃ process, desk.Serves process)
  dead_until_started : (∀ process, ¬ desk.Serves process) → ∀ operations,
    Answer.started (.ok ()) ∉ (performAll programs config desk operations).1 →
      (performAll programs config desk operations).2.isHealthy programs = false
  unhealthy_until_started : programs.TellsOfLive → desk.isHealthy programs = false →
    ∀ operations, Answer.started (.ok ()) ∉ (performAll programs config desk operations).1 →
      (performAll programs config desk operations).2.isHealthy programs = false

/-- Without a live framebuffer no health check succeeds until a start does. -/
theorem InOrder.dead_until_started
    (inOrder : desk.InOrder) (dead : ∀ process, ¬ desk.Serves process)
    (operations : List Operation)
    (notStarted : Answer.started (.ok ()) ∉ (performAll programs config desk operations).1) :
    (performAll programs config desk operations).2.isHealthy programs = false := by
  have later : (performAll programs config desk operations).2.InOrder :=
    performAll_keeps InOrder (fun _ operation inOrder => inOrder.perform operation) operations
      desk inOrder
  rw [Bool.eq_false_iff, Ne, later.isHealthy_iff]
  rintro ⟨process, serves, _⟩
  exact not_serves_until_started operations desk dead notStarted process serves

theorem InOrder.unhealthy_until_started
    (inOrder : desk.InOrder) (tells : programs.TellsOfLive)
    (unhealthy : desk.isHealthy programs = false) (operations : List Operation)
    (notStarted : Answer.started (.ok ()) ∉ (performAll programs config desk operations).1) :
    (performAll programs config desk operations).2.isHealthy programs = false := by
  refine inOrder.dead_until_started ?_ operations notStarted
  intro process serves
  have healthy := (inOrder.isHealthy_iff_serves tells).mpr ⟨process, serves⟩
  rw [unhealthy] at healthy
  cases healthy

theorem InOrder.lawful_of_held
    (inOrder : desk.InOrder) (held : desk.session = some session) :
    Lawful programs config desk where
  start_refused_iff id := by
    rw [start_of_held id held]
    exact iff_of_true rfl ⟨session, held⟩
  start_refused id _ := by rw [start_of_held id held]
  start_holds_iff id idle := by rw [held] at idle; cases idle
  start_failed id failure idle := by rw [held] at idle; cases idle
  screenshot_refused_iff := by
    rw [screenshot_of_held held, held]
    exact iff_of_false (pictureResult_ne_notStarted id _) (by rintro ⟨⟩)
  screenshot_refused refused := by
    rw [screenshot_of_held held] at refused
    exact absurd refused (pictureResult_ne_notStarted id _)
  screenshot_keeps := by rw [screenshot_of_held held, held]
  execute_refused_iff action := by
    rw [execute_of_held action held, held]
    exact iff_of_false (executeIn_ne_notStarted action desk.host) (by rintro ⟨⟩)
  execute_refused action refused := by
    rw [execute_of_held action held] at refused
    exact absurd refused (executeIn_ne_notStarted action desk.host)
  execute_keeps action := by rw [execute_of_held action held, held]
  stop_ends := stop_session
  drop_ends := drop_session
  stop_idle idle := stop_of_idle idle
  checked_iff := inOrder.isHealthy_iff
  healthy_iff := inOrder.isHealthy_iff_serves
  dead_until_started := inOrder.dead_until_started
  unhealthy_until_started := inOrder.unhealthy_until_started

theorem start_ne_alreadyStarted
    (id : String) (idle : desk.session = none) :
    (start programs config id desk).1 ≠ .error .displayAlreadyStarted := by
  have reason := (Session.start_goes programs config id desk.host).ne_alreadyStarted
  rw [start_of_idle id idle]
  cases result : (Session.start programs config id desk.host).1 with
  | error failure =>
      rw [result] at reason
      rintro ⟨⟩
      exact reason rfl
  | ok session => rintro ⟨⟩

theorem start_holds_iff_of_idle
    (id : String) (idle : desk.session = none) :
    (∃ session, (start programs config id desk).2.session = some session) ↔
      (start programs config id desk).1 = .ok () := by
  rw [start_of_idle id idle]
  cases (Session.start programs config id desk.host).1 with
  | error failure => exact iff_of_false (by rintro ⟨_, ⟨⟩⟩) (by rintro ⟨⟩)
  | ok session => exact iff_of_true ⟨session, rfl⟩ rfl

/-- A start that fails leaves no process behind. -/
theorem InOrder.start_failed_of_idle
    (inOrder : desk.InOrder) (idle : desk.session = none) {id : String} {failure : Failure}
    (failed : (Desk.start programs config id desk).1 = .error failure) :
    (Desk.start programs config id desk).2 = Desk.idle (Desk.start programs config id desk).2.host ∧
      (Desk.start programs config id desk).2.host.processes = desk.host.processes := by
  have owned := (Session.start_goes programs config id desk.host).ownedBy (inOrder.empty idle)
  rw [start_of_idle id idle] at failed ⊢
  cases result : (Session.start programs config id desk.host).1 with
  | ok session =>
      rw [result] at failed
      cases failed
  | error reason =>
      rw [result] at owned
      exact ⟨rfl, owned.trans (inOrder.empty idle).symm⟩

theorem InOrder.lawful_of_idle
    (inOrder : desk.InOrder) (idle : desk.session = none) :
    Lawful programs config desk where
  start_refused_iff id := by
    rw [idle]
    exact iff_of_false (start_ne_alreadyStarted id idle) (by rintro ⟨_, ⟨⟩⟩)
  start_refused id refused := absurd refused (start_ne_alreadyStarted id idle)
  start_holds_iff id _ := start_holds_iff_of_idle id idle
  start_failed _ _ _ failed := inOrder.start_failed_of_idle idle failed
  screenshot_refused_iff := by
    rw [screenshot_of_idle idle]
    exact iff_of_true rfl idle
  screenshot_refused _ := by rw [screenshot_of_idle idle]
  screenshot_keeps := by rw [screenshot_of_idle idle]
  execute_refused_iff action := by
    rw [execute_of_idle action idle]
    exact iff_of_true rfl idle
  execute_refused action _ := by rw [execute_of_idle action idle]
  execute_keeps action := by rw [execute_of_idle action idle]
  stop_ends := stop_session
  drop_ends := drop_session
  stop_idle := stop_of_idle
  checked_iff := inOrder.isHealthy_iff
  healthy_iff := inOrder.isHealthy_iff_serves
  dead_until_started := inOrder.dead_until_started
  unhealthy_until_started := inOrder.unhealthy_until_started

/-- After any sequence of operations on a machine on which nothing was alive, the executor keeps
the laws. -/
theorem lawful_of_performAll
    {host : Host τ} (empty : host.processes = []) (operations : List Operation) :
    Lawful programs config (performAll programs config (idle host) operations).2 := by
  have inOrder := inOrder_of_performAll programs config empty operations
  cases held : (performAll programs config (idle host) operations).2.session with
  | none => exact inOrder.lawful_of_idle held
  | some session => exact inOrder.lawful_of_held held

/-- A display all of whose programs are stand-ins, of which one probe is made at most. -/
def rehearsedConfig : Config :=
  { Config.ofEnvironment fun _ => none with
    framebuffer := [Rehearsal.Tool.framebuffer.program]
    windowManager := [Rehearsal.Tool.windowManager.program]
    browser := [Rehearsal.Tool.browser.program]
    probe := [Rehearsal.Tool.probe.program]
    capture := [Rehearsal.Tool.capture.program]
    input := [Rehearsal.Tool.input.program]
    startTimeout := 0 }

/-- A stage on which the first probe fails. -/
def rehearsedStage : Rehearsal.Stage :=
  .ofScripts [] [{ Rehearsal.Script.free with status := 1 }] [] [] false

theorem tellsOfLive_rehearsed : Rehearsal.programs.TellsOfLive :=
  ⟨fun _ _ _ => rfl, fun _ _ _ => rfl⟩

def rehearsedOperations : List Operation :=
  [.screenshot, .start "first", .stop, .start "second", .isHealthy, .death 2, .isHealthy,
    .start "third", .screenshot]

/-- A start fails and a later one succeeds; its framebuffer, which is process 2, dies, and the
session is still held. -/
theorem lawful_of_rehearsedOperations :
    (performAll Rehearsal.programs rehearsedConfig (idle (.fresh rehearsedStage))
      rehearsedOperations).1 =
        [.picture (.error .displayNotStarted),
          .started (.error (.displayStartTimeout ":99" 0)), .done, .started (.ok ()),
          .health true, .done, .health false, .started (.error .displayAlreadyStarted),
          .picture (.ok "ZGVza3RvcAo=")] ∧
    Rehearsal.programs.TellsOfLive ∧
    Lawful Rehearsal.programs rehearsedConfig
      (performAll Rehearsal.programs rehearsedConfig (idle (.fresh rehearsedStage))
        rehearsedOperations).2 := by
  refine ⟨?_, tellsOfLive_rehearsed, lawful_of_performAll rfl rehearsedOperations⟩
  with_unfolding_all rfl

end Desk

end DesktopAgent.Display
