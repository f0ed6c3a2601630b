import DesktopAgent.Proofs.Display.Start

/-!
Which processes belong to a session.

Everything alive belongs to the session that is held: it is in its group, and among it is at most
one framebuffer, which is the session's. A start makes it so, time keeps it so, and stopping or
giving up the session leaves nothing alive.
-/

namespace DesktopAgent.Display

variable {τ : Type} {programs : Programs τ} {config : Config}

namespace Session

/-- The live processes of a machine are those of a session that runs. -/
structure Owns (session : Session) (host : Host τ) : Prop where
  running : session.framebuffer = some session.group
  numbered : session.group < host.nextProcess
  grouped : ∀ process ∈ host.processes, process.group = session.group
  leads : ∀ process ∈ host.processes,
    process.part = .framebuffer ↔ process.id = session.group
  alone : host.processes.countP (fun process => process.part = .framebuffer) ≤ 1

variable {session : Session} {host after : Host τ}

theorem Owns.aged (owns : session.Owns host) (aged : host.Aged after) :
    session.Owns after where
  running := owns.running
  numbered := aged.nextProcess ▸ owns.numbered
  grouped process member := owns.grouped process (aged.processes.subset member)
  leads process member := owns.leads process (aged.processes.subset member)
  alone := Nat.le_trans aged.processes.countP_le owns.alone

theorem Owns.launchApp
    (owns : session.Owns host) {part : Part} (isApp : part ≠ .framebuffer) (argv : Argv)
    (settle : Span) : session.Owns (session.launchApp programs part argv settle host).2 := by
  generalize launches : session.launchApp programs part argv settle host = launch
  obtain ⟨result, later⟩ := launch
  rcases launchApp_cases launches with
    ⟨scene, _, rfl⟩ | ⟨process, isNext, inGroup, isPart, rfl⟩
  · exact owns.aged ⟨List.Sublist.refl _, rfl, rfl⟩
  · have notFramebuffer : process.part ≠ .framebuffer := isPart ▸ isApp
    refine Owns.aged ?_ (Host.aged_passage.pause settle _)
    refine ⟨owns.running, Nat.lt_succ_of_lt owns.numbered, ?_, ?_, ?_⟩
    · intro other member
      rcases List.mem_append.mp member with old | new
      · exact owns.grouped other old
      · rw [List.mem_singleton.mp new]
        exact inGroup
    · intro other member
      rcases List.mem_append.mp member with old | new
      · exact owns.leads other old
      · rw [List.mem_singleton.mp new, isNext]
        exact iff_of_false notFramebuffer (Nat.ne_of_gt owns.numbered)
    · have counted := owns.alone
      simpa [List.countP_append, notFramebuffer] using counted

theorem Owns.launchApps (owns : session.Owns host) :
    session.Owns (session.launchApps programs config host).2 := by
  have managed : session.Owns (session.launchApp programs .windowManager config.windowManager
      config.windowManagerSettle host).2 :=
    owns.launchApp (by decide) config.windowManager config.windowManagerSettle
  unfold Session.launchApps
  generalize session.launchApp programs .windowManager config.windowManager
    config.windowManagerSettle host = launch at managed
  obtain ⟨result, later⟩ := launch
  cases result with
  | error problem => exact managed
  | ok _ => exact managed.launchApp (by decide) config.browser config.browserSettle

theorem Owns.of_launchApps
    {result : Except SpawnProblem Unit} (owns : session.Owns host)
    (serves : session.launchApps programs config host = (result, after)) :
    session.Owns after := by
  have kept : session.Owns (session.launchApps programs config host).2 := owns.launchApps
  rwa [serves] at kept

/-- On a machine without processes a launched framebuffer is the session's only process. -/
theorem Owns.of_launches
    {id : String} {framebuffer : Nat} (empty : host.processes = [])
    (launches : Launches programs config host (.ok framebuffer) after) :
    (opened config id framebuffer).Owns after := by
  rcases Host.launch_cases launches with ⟨_, _, failed, _, _⟩ | ⟨isNext, _, rfl⟩
  · cases failed
  · cases isNext
    rw [empty]
    refine ⟨rfl, Nat.lt_succ_self _, ?_, ?_, ?_⟩
    · intro process member
      rw [List.mem_singleton.mp member]
      rfl
    · intro process member
      rw [List.mem_singleton.mp member]
      exact iff_of_true rfl rfl
    · simp

/-- Ending the group of a session that owns all processes ends them all. -/
theorem Owns.killGroup (owns : session.Owns host) :
    (host.killGroup session.group).processes = [] := by
  apply List.eq_nil_iff_forall_not_mem.mpr
  intro process isLeft
  have alive : process ∈ host.processes := (List.mem_filter.mp isLeft).1
  exact Host.group_ne_of_mem_killGroup isLeft (owns.grouped process alive)

theorem Owns.stop_processes (owns : session.Owns host) :
    (session.stop host).2.processes = [] := by
  have running : session.isRunning = true := by
    rw [isRunning, owns.running]
    rfl
  rw [stop, if_pos running]
  exact owns.killGroup

theorem Owns.stop_eq_drop (owns : session.Owns host) :
    (session.stop host).2 = session.drop host := by
  have running : session.isRunning = true := by
    rw [isRunning, owns.running]
    rfl
  rw [stop, drop, if_pos running, if_pos running]

theorem Owns.isAlive_iff (owns : session.Owns host) :
    host.isAlive session.group = true ↔
      ∃ process ∈ host.processes, process.part = .framebuffer := by
  rw [Host.isAlive, List.any_eq_true]
  constructor
  · rintro ⟨process, member, isLeader⟩
    exact ⟨process, member, (owns.leads process member).mpr (of_decide_eq_true isLeader)⟩
  · rintro ⟨process, member, isFramebuffer⟩
    exact ⟨process, member, decide_eq_true ((owns.leads process member).mp isFramebuffer)⟩

/-- A session is healthy when its framebuffer is among the live processes, the system says so and it
takes signals. -/
theorem Owns.isHealthy_iff (owns : session.Owns host) :
    session.isHealthy programs host = true ↔
      (∃ process ∈ host.processes, process.part = .framebuffer) ∧
        programs.untold session.group host = false ∧
        programs.permits session.group host = true := by
  rw [← owns.isAlive_iff, isHealthy, owns.running]
  dsimp only
  unfold Host.hasEnded? Host.takesSignal
  cases programs.untold session.group host with
  | true => simp
  | false => cases host.isAlive session.group <;> simp

/-- The framebuffer is still the session's when waiting for the display has ended. -/
theorem Owns.of_waitUntilReady
    {id : String} {framebuffer : Nat} {launched waited : Host τ} {result : Except Failure Unit}
    (empty : host.processes = [])
    (launches : Launches programs config host (.ok framebuffer) launched)
    (waits : waitUntilReady programs config (opened config id framebuffer) launched =
      (result, waited)) :
    (opened config id framebuffer).Owns waited := by
  have owns : (opened config id framebuffer).Owns launched := .of_launches empty launches
  have aged : launched.Aged
      (waitUntilReady programs config (opened config id framebuffer) launched).2 :=
    Host.aged_passage.waitUntilReady (Host.aged_leadsOn _) launched
  rw [waits] at aged
  exact owns.aged aged

end Session

/-- The live processes of a machine are those of the session that is held. -/
def Host.OwnedBy (host : Host τ) : Option Session → Prop
  | some session => session.Owns host
  | none => host.processes = []

/-- A start on a machine without processes leaves those of the session that it gives, if any. -/
theorem Session.Start.ownedBy
    {id : String} {host after : Host τ} {result : Except Failure Session}
    (start : Start programs config id host result after) (empty : host.processes = []) :
    after.OwnedBy result.toOption := by
  cases start with
  | unlaunched launches =>
      rcases Host.launch_cases launches with ⟨_, _, _, _, rfl⟩ | ⟨succeeded, _⟩
      · exact empty
      · cases succeeded
  | unready launches waits =>
      have owns := Owns.of_waitUntilReady empty launches waits
      exact owns.stop_processes
  | unserved launches waits serves =>
      have owns := Owns.of_waitUntilReady empty launches waits
      exact (owns.of_launchApps serves).stop_processes
  | started launches waits serves =>
      have owns := Owns.of_waitUntilReady empty launches waits
      exact owns.of_launchApps serves

end DesktopAgent.Display
