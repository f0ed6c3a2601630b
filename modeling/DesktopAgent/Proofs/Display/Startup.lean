import DesktopAgent.Proofs.Display.Lifecycle
import DesktopAgent.Proofs.Display.Waiting

/-!
What comes of a start.

A start succeeds when the framebuffer is launched, the display becomes ready in time and each app
that is configured is launched; at the first of these that does not happen it fails and leaves no
process. What has been launched until then is known for each of the outcomes.
-/

namespace DesktopAgent.Display

open DesktopAgent.Text

variable {τ : Type} {programs : Programs τ} {config : Config}

/-! ## Launches -/

namespace Host

/-- A command can be started. -/
def Spawns (programs : Programs τ) (invocation : Invocation) (host : Host τ) : Prop :=
  (host.attempt programs invocation).1 = .ok ()

theorem spawns_or_refused
    (programs : Programs τ) (invocation : Invocation) (host : Host τ) :
    host.Spawns programs invocation ∨
      ∃ problem, (host.attempt programs invocation).1 = .error problem := by
  unfold Spawns
  cases (host.attempt programs invocation).1 with
  | ok _ => exact Or.inl rfl
  | error problem => exact Or.inr ⟨problem, rfl⟩

/-- What has been launched on a machine since an earlier time, all of it into one group. Whatever
else is alive was alive then. -/
structure Launched
    (before after : Host τ) (group : Nat) (launches : List (Part × Invocation)) : Prop where
  added : ∃ processes : List Process, after.launched = before.launched ++ processes ∧
    processes.map (fun process => (process.part, process.invocation)) = launches ∧
    ∀ process ∈ processes, process.group = group
  alive : ∀ process ∈ after.processes, process ∈ before.processes ∨ process.group = group

theorem launch_result
    (programs : Programs τ) (part : Part) (into : Option Nat) (invocation : Invocation)
    (host : Host τ) :
    (host.launch programs part into invocation).1 =
      (host.attempt programs invocation).1.map fun _ => host.nextProcess := by
  unfold launch
  generalize attempted : host.attempt programs invocation = attempt
  obtain ⟨result, after⟩ := attempt
  rcases attempt_cases attempted with ⟨problem, _, rfl, _, _⟩ | ⟨rfl, rfl, _⟩
  · rfl
  · rfl

namespace Launched

variable {before after later : Host τ} {group : Nat} {launches : List (Part × Invocation)}

theorem none (host : Host τ) (group : Nat) : host.Launched host group [] :=
  ⟨⟨[], (List.append_nil _).symm, rfl, nofun⟩, fun _ member => Or.inl member⟩

theorem aged (launched : before.Launched after group launches) (aged : after.Aged later) :
    before.Launched later group launches := by
  obtain ⟨processes, added, areLaunches, grouped⟩ := launched.added
  refine ⟨⟨processes, aged.launched.trans added, areLaunches, grouped⟩, ?_⟩
  intro process member
  exact launched.alive process (aged.processes.subset member)

/-- A command that can be started is one launch more, and one that cannot is none. -/
theorem launch
    (launched : before.Launched after group launches) (part : Part) {into : Option Nat}
    (isGroup : into.getD after.nextProcess = group) {invocation : Invocation}
    (spawns : after.Spawns programs invocation) :
    ∃ reached, after.launch programs part into invocation = (.ok after.nextProcess, reached) ∧
      before.Launched reached group (launches ++ [(part, invocation)]) := by
  generalize launches : after.launch programs part into invocation = launch
  obtain ⟨result, reached⟩ := launch
  have outcome := launch_result programs part into invocation after
  rw [launches, spawns] at outcome
  obtain rfl : result = .ok after.nextProcess := outcome
  refine ⟨reached, rfl, ?_⟩
  rcases launch_cases launches with ⟨_, _, failed, _, _⟩ | ⟨_, _, rfl⟩
  · cases failed
  · obtain ⟨processes, added, areLaunches, grouped⟩ := launched.added
    refine ⟨⟨processes ++
      [⟨after.nextProcess, into.getD after.nextProcess, part, invocation⟩], ?_, ?_, ?_⟩, ?_⟩
    · rw [← List.append_assoc, ← added]
    · rw [List.map_append, areLaunches]
      rfl
    · intro process member
      rcases List.mem_append.mp member with old | new
      · exact grouped process old
      · rw [List.mem_singleton.mp new]
        exact isGroup
    · intro process member
      rcases List.mem_append.mp member with old | new
      · exact launched.alive process old
      · rw [List.mem_singleton.mp new]
        exact Or.inr isGroup

theorem launch_refused
    (launched : before.Launched after group launches) (part : Part) (into : Option Nat)
    {invocation : Invocation} {problem : SpawnProblem}
    (refused : (after.attempt programs invocation).1 = .error problem) :
    ∃ reached, after.launch programs part into invocation = (.error problem, reached) ∧
      before.Launched reached group launches := by
  generalize launches : after.launch programs part into invocation = launch
  obtain ⟨result, reached⟩ := launch
  have outcome := launch_result programs part into invocation after
  rw [launches, refused] at outcome
  obtain rfl : result = .error problem := outcome
  refine ⟨reached, rfl, ?_⟩
  rcases launch_cases launches with ⟨_, scene, _, _, rfl⟩ | ⟨succeeded, _, _⟩
  · exact launched.aged ⟨List.Sublist.refl _, rfl, rfl⟩
  · cases succeeded

/-- Ending the group leaves only what was alive at the earlier time. -/
theorem stop
    (launched : before.Launched after group launches) {session : Session}
    (running : session.isRunning = true) (isGroup : session.group = group) :
    before.Launched (session.stop after).2 group launches ∧
      ∀ process ∈ (session.stop after).2.processes, process ∈ before.processes := by
  have ended : (session.stop after).2 =
      (after.killGroup session.group).removeFile session.picture := by
    rw [Session.stop, if_pos running]
  have left : ∀ process ∈ (session.stop after).2.processes, process ∈ before.processes := by
    intro process member
    rw [ended] at member
    have alive : process ∈ after.processes := (List.mem_filter.mp member).1
    rcases launched.alive process alive with old | inGroup
    · exact old
    · exact absurd (inGroup.trans isGroup.symm) (group_ne_of_mem_killGroup member)
  refine ⟨⟨?_, fun process member => Or.inl (left process member)⟩, left⟩
  rw [ended]
  exact launched.added

end Launched

end Host

section

variable (programs : Programs τ) (config : Config)

/-- The launch of the framebuffer: its command with the display, the screen and its size. -/
def framebufferLaunch : Part × Invocation :=
  (.framebuffer, ⟨config.framebuffer ++ [config.display, "-screen", "0",
    Numeral.text config.width.toNat ++ "x" ++ Numeral.text config.height.toNat ++ "x24", "-ac"],
    none⟩)

/-- The launch of an app, if one is configured. -/
def appLaunch (part : Part) (argv : Argv) : List (Part × Invocation) :=
  if argv = [] then [] else [(part, ⟨argv, some config.display⟩)]

/-- An app that is configured can be started on the display. -/
def AppSpawns (argv : Argv) (host : Host τ) : Prop :=
  argv = [] ∨ host.Spawns programs ⟨argv, some config.display⟩

/-- The machine when the window manager has been launched and has settled, if one is configured. -/
def managed (session : Session) (host : Host τ) : Host τ :=
  (session.launchApp programs .windowManager config.windowManager config.windowManagerSettle
    host).2

end

variable {session : Session} {host waited : Host τ} {launches : List (Part × Invocation)}

theorem launchApp_of_spawns
    (isDisplay : session.display = config.display) (part : Part) {argv : Argv} (settle : Span)
    (launched : host.Launched waited session.group launches)
    (spawns : AppSpawns programs config argv waited) :
    ∃ after, session.launchApp programs part argv settle waited = (.ok (), after) ∧
      host.Launched after session.group (launches ++ appLaunch config part argv) := by
  unfold Session.launchApp appLaunch
  by_cases none : argv = []
  · refine ⟨waited, ?_, ?_⟩
    · rw [none]
      rfl
    · rw [if_pos none, List.append_nil]
      exact launched
  · rw [isDisplay, if_neg none, if_neg (by simpa using none)]
    have isGroup : (some session.group).getD waited.nextProcess = session.group := rfl
    obtain ⟨after, launches, reached⟩ :=
      launched.launch part isGroup (spawns.resolve_left none)
    exact ⟨after.pause programs settle, by rw [launches],
      reached.aged (Host.aged_passage.pause settle after)⟩

theorem launchApp_of_refused
    (isDisplay : session.display = config.display) (part : Part) {argv : Argv} (settle : Span)
    (launched : host.Launched waited session.group launches) {problem : SpawnProblem}
    (configured : argv ≠ [])
    (refused : (waited.attempt programs ⟨argv, some config.display⟩).1 = .error problem) :
    ∃ after, session.launchApp programs part argv settle waited = (.error problem, after) ∧
      host.Launched after session.group launches := by
  unfold Session.launchApp
  rw [isDisplay, if_neg (by simpa using configured)]
  obtain ⟨after, launches, reached⟩ :=
    launched.launch_refused part (some session.group) refused
  exact ⟨after, by rw [launches], reached⟩

/-! ## Outcomes -/

namespace Session

/-- What a start does once its framebuffer has been launched. -/
def proceed
    (programs : Programs τ) (config : Config) (session : Session) (launched : Host τ) :
    Except Failure Session × Host τ :=
  match session.waitUntilReady programs config launched with
  | (.error failure, waited) => (.error failure, (session.stop waited).2)
  | (.ok (), waited) =>
      match session.launchApps programs config waited with
      | (.error problem, served) => (.error problem.failure, (session.stop served).2)
      | (.ok (), served) => (.ok session, served)

/-- A start that fails has launched what it has, and leaves nothing of it alive. -/
structure FailsWith
    (host : Host τ) (outcome : Except Failure Session × Host τ) (failure : Failure)
    (launches : List (Part × Invocation)) : Prop where
  failed : outcome.1 = .error failure
  launched : host.Launched outcome.2 host.nextProcess launches
  ended : ∀ process ∈ outcome.2.processes, process ∈ host.processes

/-- How a start on a machine comes out whose framebuffer has been launched: by whether the display
becomes ready while there is time, and by which apps can be started then. One that fails for want of
a display says how long it has waited. -/
structure Settles
    (programs : Programs τ) (config : Config) (session : Session) (host launched : Host τ)
    (outcome : Except Failure Session × Host τ) : Prop where
  decided : (∃ waited, ReadyWithin programs config session launched waited) ∨
    ∃ waited, NeverReady programs config session launched waited
  started : ∀ waited, ReadyWithin programs config session launched waited →
    AppSpawns programs config config.windowManager waited →
    AppSpawns programs config config.browser (managed programs config session waited) →
    outcome.1 = .ok session ∧ host.Launched outcome.2 host.nextProcess
      (framebufferLaunch config :: appLaunch config .windowManager config.windowManager ++
        appLaunch config .browser config.browser)
  unready : ∀ waited, NeverReady programs config session launched waited →
    FailsWith host outcome
      (.displayStartTimeout config.display (Span.milliseconds
        ((waited.readClock programs).1 - (launched.readClock programs).1)))
      [framebufferLaunch config]
  unmanaged : ∀ waited problem, ReadyWithin programs config session launched waited →
    config.windowManager ≠ [] →
    (waited.attempt programs ⟨config.windowManager, some config.display⟩).1 = .error problem →
    FailsWith host outcome (.spawn problem.message) [framebufferLaunch config]
  unbrowsed : ∀ waited problem, ReadyWithin programs config session launched waited →
    AppSpawns programs config config.windowManager waited → config.browser ≠ [] →
    ((managed programs config session waited).attempt programs
      ⟨config.browser, some config.display⟩).1 = .error problem →
    FailsWith host outcome (.spawn problem.message)
      (framebufferLaunch config :: appLaunch config .windowManager config.windowManager)
  ok_iff : (∃ started, outcome.1 = .ok started) ↔
    ∃ waited, ReadyWithin programs config session launched waited ∧
      AppSpawns programs config config.windowManager waited ∧
      AppSpawns programs config config.browser (managed programs config session waited)

section

variable {launched : Host τ}

theorem proceed_of_readyWithin
    (ready : ReadyWithin programs config session launched waited) :
    proceed programs config session launched =
      match session.launchApps programs config waited with
      | (.error problem, served) => (.error problem.failure, (session.stop served).2)
      | (.ok (), served) => (.ok session, served) := by
  rw [proceed, waitUntilReady_of_readyWithin ready]

theorem launched_of_readyWithin
    (begun : host.Launched launched session.group launches)
    (ready : ReadyWithin programs config session launched waited) :
    host.Launched waited session.group launches := by
  have aged : launched.Aged (waitUntilReady programs config session launched).2 :=
    Host.aged_passage.waitUntilReady (Host.aged_leadsOn _) launched
  rw [waitUntilReady_of_readyWithin ready] at aged
  exact begun.aged aged

/-- The window manager has been launched and has settled. -/
theorem managed_of_spawns
    (isDisplay : session.display = config.display)
    (begun : host.Launched waited session.group launches)
    (spawns : AppSpawns programs config config.windowManager waited) :
    session.launchApps programs config waited =
        session.launchApp programs .browser config.browser config.browserSettle
          (managed programs config session waited) ∧
      host.Launched (managed programs config session waited) session.group
        (launches ++ appLaunch config .windowManager config.windowManager) := by
  obtain ⟨after, succeeded, reached⟩ :=
    launchApp_of_spawns isDisplay .windowManager config.windowManagerSettle begun spawns
  unfold launchApps managed
  rw [succeeded]
  exact ⟨rfl, reached⟩

theorem failsWith_of_stop
    {failure : Failure} {served : Host τ} (running : session.isRunning = true)
    (isGroup : session.group = host.nextProcess)
    (begun : host.Launched served session.group launches) :
    FailsWith host (.error failure, (session.stop served).2) failure launches := by
  obtain ⟨reached, ended⟩ := begun.stop running rfl
  exact ⟨rfl, isGroup ▸ reached, ended⟩

section

variable (isDisplay : session.display = config.display) (running : session.isRunning = true)
variable (isGroup : session.group = host.nextProcess)
variable (begun : host.Launched launched session.group [framebufferLaunch config])

include running isGroup begun

theorem proceed_unready
    (never : NeverReady programs config session launched waited) :
    FailsWith host (proceed programs config session launched)
      (session.timeout ((waited.readClock programs).1 - (launched.readClock programs).1))
      [framebufferLaunch config] := by
  have aged : launched.Aged (waitUntilReady programs config session launched).2 :=
    Host.aged_passage.waitUntilReady (Host.aged_leadsOn _) launched
  rw [waitUntilReady_of_neverReady never] at aged
  rw [proceed, waitUntilReady_of_neverReady never]
  exact failsWith_of_stop running isGroup (begun.aged aged)

include isDisplay

theorem proceed_unmanaged
    {problem : SpawnProblem} (ready : ReadyWithin programs config session launched waited)
    (configured : config.windowManager ≠ [])
    (refused : (waited.attempt programs
      ⟨config.windowManager, some config.display⟩).1 = .error problem) :
    FailsWith host (proceed programs config session launched) (.spawn problem.message)
      [framebufferLaunch config] := by
  have reached := launched_of_readyWithin begun ready
  obtain ⟨served, failed, left⟩ :=
    launchApp_of_refused isDisplay .windowManager config.windowManagerSettle reached configured
      refused
  rw [proceed_of_readyWithin ready, launchApps, failed]
  exact failsWith_of_stop running isGroup left

theorem proceed_unbrowsed
    {problem : SpawnProblem} (ready : ReadyWithin programs config session launched waited)
    (manages : AppSpawns programs config config.windowManager waited)
    (configured : config.browser ≠ [])
    (refused : ((managed programs config session waited).attempt programs
      ⟨config.browser, some config.display⟩).1 = .error problem) :
    FailsWith host (proceed programs config session launched) (.spawn problem.message)
      (framebufferLaunch config :: appLaunch config .windowManager config.windowManager) := by
  have reached := launched_of_readyWithin begun ready
  obtain ⟨goesOn, managed⟩ := managed_of_spawns isDisplay reached manages
  obtain ⟨served, failed, left⟩ :=
    launchApp_of_refused isDisplay .browser config.browserSettle managed configured refused
  rw [proceed_of_readyWithin ready, goesOn, failed]
  exact failsWith_of_stop running isGroup left

omit running

theorem proceed_started
    (ready : ReadyWithin programs config session launched waited)
    (manages : AppSpawns programs config config.windowManager waited)
    (browses : AppSpawns programs config config.browser
      (managed programs config session waited)) :
    (proceed programs config session launched).1 = .ok session ∧
      host.Launched (proceed programs config session launched).2 host.nextProcess
        (framebufferLaunch config :: appLaunch config .windowManager config.windowManager ++
          appLaunch config .browser config.browser) := by
  have reached := launched_of_readyWithin begun ready
  obtain ⟨goesOn, managed⟩ := managed_of_spawns isDisplay reached manages
  obtain ⟨served, succeeded, left⟩ :=
    launchApp_of_spawns isDisplay .browser config.browserSettle managed browses
  rw [proceed_of_readyWithin ready, goesOn, succeeded]
  exact ⟨rfl, isGroup ▸ left⟩

end

theorem appSpawns_or_refused
    (programs : Programs τ) (config : Config) (argv : Argv) (host : Host τ) :
    AppSpawns programs config argv host ∨ argv ≠ [] ∧
      ∃ problem, (host.attempt programs ⟨argv, some config.display⟩).1 = .error problem := by
  by_cases none : argv = []
  · exact Or.inl (Or.inl none)
  · rcases Host.spawns_or_refused programs ⟨argv, some config.display⟩ host with spawns | refused
    · exact Or.inl (Or.inr spawns)
    · exact Or.inr ⟨none, refused⟩

theorem FailsWith.ne_ok
    {outcome : Except Failure Session × Host τ} {failure : Failure}
    (fails : FailsWith host outcome failure launches) : ¬∃ started, outcome.1 = .ok started := by
  rintro ⟨started, succeeded⟩
  rw [fails.failed] at succeeded
  cases succeeded

/-- By the first of the points at which a start can fail. -/
theorem settles_of_proceed
    (isDisplay : session.display = config.display) (running : session.isRunning = true)
    (isGroup : session.group = host.nextProcess)
    (begun : host.Launched launched session.group [framebufferLaunch config]) :
    Settles programs config session host launched
      (proceed programs config session launched) where
  decided := readyWithin_or_neverReady launched
  started _ ready manages browses :=
    proceed_started isDisplay isGroup begun ready manages browses
  unready waited never := by
    have fails := proceed_unready running isGroup begun never
    rwa [timeout, isDisplay] at fails
  unmanaged _ _ ready configured refused :=
    proceed_unmanaged isDisplay running isGroup begun ready configured refused
  unbrowsed _ _ ready manages configured refused :=
    proceed_unbrowsed isDisplay running isGroup begun ready manages configured refused
  ok_iff := by
    constructor
    · intro succeeds
      rcases readyWithin_or_neverReady launched with ⟨waited, ready⟩ | ⟨waited, never⟩
      · rcases appSpawns_or_refused programs config config.windowManager waited with
          manages | ⟨configured, _, refused⟩
        · rcases appSpawns_or_refused programs config config.browser
              (managed programs config session waited) with
            browses | ⟨configured, _, refused⟩
          · exact ⟨waited, ready, manages, browses⟩
          · have fails := proceed_unbrowsed isDisplay running isGroup begun ready manages
              configured refused
            exact absurd succeeds fails.ne_ok
        · have fails := proceed_unmanaged isDisplay running isGroup begun ready configured refused
          exact absurd succeeds fails.ne_ok
      · have fails := proceed_unready running isGroup begun never
        exact absurd succeeds fails.ne_ok
    · rintro ⟨waited, ready, manages, browses⟩
      exact ⟨session, (proceed_started isDisplay isGroup begun ready manages browses).1⟩

end

/-! ## Starts -/

/-- The machine when the framebuffer has been launched. -/
def begun (programs : Programs τ) (config : Config) (host : Host τ) : Host τ :=
  (host.launch programs .framebuffer none (framebufferInvocation config)).2

theorem start_of_launch
    (id : String) {host launched : Host τ} {result : Except SpawnProblem Nat}
    (launches : host.launch programs .framebuffer none (framebufferInvocation config) =
      (result, launched)) :
    start programs config id host =
      match result with
      | .error problem => (.error problem.failure, launched)
      | .ok framebuffer => proceed programs config (opened config id framebuffer) launched := by
  unfold start
  simp only [launches]
  cases result with
  | error problem => rfl
  | ok framebuffer => rfl

/-- The framebuffer's command, unless it is empty. -/
theorem framebufferInvocation_of_ne_nil (configured : config.framebuffer ≠ []) :
    framebufferInvocation config = (framebufferLaunch config).2 := by
  unfold framebufferInvocation framebufferLaunch geometry
  rw [if_neg (by simpa using configured)]

theorem framebuffer_of_spawns
    {host : Host τ} (spawns : host.Spawns programs (framebufferInvocation config)) :
    config.framebuffer ≠ [] := by
  intro none
  unfold Host.Spawns framebufferInvocation at spawns
  rw [none] at spawns
  cases spawns

theorem launched_of_spawns
    {host : Host τ} (spawns : host.Spawns programs (framebufferInvocation config)) :
    host.launch programs .framebuffer none (framebufferInvocation config) =
        (.ok host.nextProcess, begun programs config host) ∧
      host.Launched (begun programs config host) host.nextProcess
        [framebufferLaunch config] := by
  have isGroup : (none : Option Nat).getD host.nextProcess = host.nextProcess := rfl
  obtain ⟨reached, launches, added⟩ :=
    (Host.Launched.none host host.nextProcess).launch .framebuffer isGroup spawns
  have isBegun : begun programs config host = reached := congrArg (·.2) launches
  rw [framebufferInvocation_of_ne_nil (framebuffer_of_spawns spawns)] at added
  rw [isBegun]
  exact ⟨launches, added⟩

/-- How a start comes out. One whose framebuffer cannot be launched fails at once. Any other goes on
with the machine on which the framebuffer has been launched, and settles as it does on every machine
on which the framebuffer, or whatever else was alive, may have ended by then. Where the system tells
of every process, a framebuffer is seen to have ended when it is no longer alive. -/
structure Starts
    (programs : Programs τ) (config : Config) (id : String) (host : Host τ) : Prop where
  unlaunched : ∀ problem,
    (host.attempt programs (framebufferInvocation config)).1 = .error problem →
    FailsWith host (start programs config id host) (.spawn problem.message) []
  goesOn : host.Spawns programs (framebufferInvocation config) →
    start programs config id host =
      proceed programs config (opened config id host.nextProcess) (begun programs config host)
  settles : host.Spawns programs (framebufferInvocation config) →
    ∀ later, (begun programs config host).Aged later →
      Settles programs config (opened config id host.nextProcess) host later
        (proceed programs config (opened config id host.nextProcess) later)
  ok_iff : (∃ session, (start programs config id host).1 = .ok session) ↔
    config.framebuffer ≠ [] ∧
      host.Spawns programs (framebufferInvocation config) ∧
      ∃ waited, ReadyWithin programs config (opened config id host.nextProcess)
          (begun programs config host) waited ∧
        AppSpawns programs config config.windowManager waited ∧
        AppSpawns programs config config.browser (managed programs config
          (opened config id host.nextProcess) waited)
  seen : (∀ (process : Nat) (later : Host τ), programs.untold process later = false) →
    ∀ later : Host τ, (opened config id host.nextProcess).framebufferEnded programs later =
      !later.isAlive host.nextProcess

/-- A start succeeds exactly when the framebuffer is launched, a probe within its time succeeds with
the framebuffer alive before and after it and no probe before it decides otherwise, and the apps
that are configured can be started. Each way to fail has its failure and what was launched until
then. -/
theorem outcome_of_start
    (programs : Programs τ) (config : Config) (id : String) (host : Host τ) :
    Starts programs config id host := by
  have unlaunched (problem : SpawnProblem)
      (refused : (host.attempt programs (framebufferInvocation config)).1 = .error problem) :
      FailsWith host (start programs config id host) (.spawn problem.message) [] := by
    obtain ⟨reached, launches, left⟩ :=
      (Host.Launched.none host host.nextProcess).launch_refused .framebuffer none refused
    rw [start_of_launch id launches]
    rcases Host.launch_cases launches with ⟨_, _, _, _, rfl⟩ | ⟨succeeded, _, _⟩
    · exact ⟨rfl, left, fun _ member => member⟩
    · cases succeeded
  have goesOn (spawns : host.Spawns programs (framebufferInvocation config)) :
      start programs config id host =
        proceed programs config (opened config id host.nextProcess)
          (begun programs config host) :=
    start_of_launch id (launched_of_spawns spawns).1
  have settles (spawns : host.Spawns programs (framebufferInvocation config))
      (later : Host τ) (aged : (begun programs config host).Aged later) :
      Settles programs config (opened config id host.nextProcess) host later
        (proceed programs config (opened config id host.nextProcess) later) :=
    settles_of_proceed rfl rfl rfl ((launched_of_spawns spawns).2.aged aged)
  have same : (begun programs config host).Aged (begun programs config host) :=
    ⟨List.Sublist.refl _, rfl, rfl⟩
  refine ⟨unlaunched, goesOn, settles, ?_, fun told => framebufferEnded_of_told told rfl⟩
  constructor
  · intro succeeds
    rcases Host.spawns_or_refused programs (framebufferInvocation config) host with
      spawns | ⟨problem, refused⟩
    · rw [goesOn spawns] at succeeds
      exact ⟨framebuffer_of_spawns spawns, spawns, (settles spawns _ same).ok_iff.mp succeeds⟩
    · exact absurd succeeds (unlaunched problem refused).ne_ok
  · rintro ⟨_, spawns, ready⟩
    rw [goesOn spawns]
    exact (settles spawns _ same).ok_iff.mpr ready

/-- The rehearsed settings with the usual time to wait for the display. -/
def patientConfig : Config :=
  { Desk.rehearsedConfig with startTimeout := .ofMilliseconds 5000 }

/-- The first probe of the rehearsal fails and the second, one pause later, finds the display ready;
without time for a second one the start fails, and so does one without a framebuffer. -/
theorem outcome_of_rehearsedStarts :
    (∃ waited, ReadyWithin Rehearsal.programs patientConfig (opened patientConfig "first" 1)
      (begun Rehearsal.programs patientConfig (.fresh Desk.rehearsedStage)) waited) ∧
    FailsWith (.fresh Desk.rehearsedStage)
      (start Rehearsal.programs Desk.rehearsedConfig "first" (.fresh Desk.rehearsedStage))
      (.displayStartTimeout ":99" 0) [framebufferLaunch Desk.rehearsedConfig] ∧
    FailsWith (.fresh Desk.rehearsedStage)
      (start Rehearsal.programs { Desk.rehearsedConfig with framebuffer := [] } "first"
        (.fresh Desk.rehearsedStage)) (.spawn "empty command") [] := by
  have inTime := outcome_of_start Rehearsal.programs patientConfig "first"
    (.fresh Desk.rehearsedStage)
  have atOnce := outcome_of_start Rehearsal.programs Desk.rehearsedConfig "first"
    (.fresh Desk.rehearsedStage)
  have without := outcome_of_start Rehearsal.programs
    { Desk.rehearsedConfig with framebuffer := [] } "first" (.fresh Desk.rehearsedStage)
  have spawns : Host.Spawns Rehearsal.programs
      (framebufferInvocation Desk.rehearsedConfig) (.fresh Desk.rehearsedStage) := by
    with_unfolding_all rfl
  have started : ∃ session, (start Rehearsal.programs patientConfig "first"
      (.fresh Desk.rehearsedStage)).1 = .ok session :=
    ⟨opened patientConfig "first" 1, by with_unfolding_all rfl⟩
  have unsettled : IsUnsettled Rehearsal.programs Desk.rehearsedConfig
      (opened Desk.rehearsedConfig "first" 1)
      ((begun Rehearsal.programs Desk.rehearsedConfig
        (.fresh Desk.rehearsedStage)).readClock Rehearsal.programs).2 := by
    refine ⟨by with_unfolding_all rfl, ?_⟩
    decide +kernel
  have never : NeverReady Rehearsal.programs Desk.rehearsedConfig
      (opened Desk.rehearsedConfig "first" 1)
      (begun Rehearsal.programs Desk.rehearsedConfig (.fresh Desk.rehearsedStage)) _ :=
    ⟨0, reaches_zero _ _, Or.inr ⟨unsettled, Nat.not_lt_of_le (by decide +kernel), rfl⟩⟩
  have fails := (atOnce.settles spawns _ ⟨List.Sublist.refl _, rfl, rfl⟩).unready _ never
  rw [← atOnce.goesOn spawns] at fails
  obtain ⟨_, _, waited, ready, _⟩ := inTime.ok_iff.mp started
  refine ⟨⟨waited, ready⟩, ?_, without.unlaunched .emptyCommand rfl⟩
  with_unfolding_all exact fails

end Session

end DesktopAgent.Display
