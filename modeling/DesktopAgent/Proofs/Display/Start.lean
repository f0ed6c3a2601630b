import DesktopAgent.Proofs.Display.Passage

/-!
How a session starts.

A start launches the framebuffer, waits for the display and launches the programs that live on it.
It can fail at each of these points, and what it has done until then is said here once; what holds
after every start follows by cases.
-/

namespace DesktopAgent.Display

variable {τ : Type} {programs : Programs τ} {config : Config}

/-- Launching a process starts nothing else and writes nothing. -/
theorem Host.launch_cases
    {part : Part} {group : Option Nat} {invocation : Invocation} {host after : Host τ}
    {result : Except SpawnProblem Nat}
    (launches : host.launch programs part group invocation = (result, after)) :
    (∃ problem scene, result = .error problem ∧
      host.LeftWith programs invocation.argv scene ∧ after = { host with scene := scene }) ∨
    result = .ok host.nextProcess ∧
      (invocation.argv.any hasZeroByte || invocation.display.any hasZeroByte) = false ∧
      after = { host with
        processes := host.processes ++
          [⟨host.nextProcess, group.getD host.nextProcess, part, invocation⟩]
        launched := host.launched ++
          [⟨host.nextProcess, group.getD host.nextProcess, part, invocation⟩]
        nextProcess := host.nextProcess + 1 } := by
  unfold launch at launches
  generalize attempted : host.attempt programs invocation = attempt at launches
  obtain ⟨started, before⟩ := attempt
  rcases attempt_cases attempted with
    ⟨problem, scene, rfl, left, rfl⟩ | ⟨rfl, rfl, _, plain, _⟩
  · cases launches
    exact Or.inl ⟨problem, scene, rfl, left, rfl⟩
  · cases launches
    exact Or.inr ⟨rfl, plain, rfl⟩

namespace Session

/-- An app is launched into the session's group and settles there, or there is none to launch. -/
theorem launchApp_cases
    {session : Session} {part : Part} {argv : Argv} {settle : Span} {host after : Host τ}
    {result : Except SpawnProblem Unit}
    (launches : session.launchApp programs part argv settle host = (result, after)) :
    (∃ scene, host.LeftWith programs argv scene ∧ after = { host with scene := scene }) ∨
    ∃ process : Process, process.id = host.nextProcess ∧ process.group = session.group ∧
      process.part = part ∧
      after = Host.pause programs settle { host with
        processes := host.processes ++ [process]
        launched := host.launched ++ [process]
        nextProcess := host.nextProcess + 1 } := by
  unfold launchApp at launches
  by_cases none : argv.isEmpty
  · rw [if_pos none] at launches
    cases launches
    exact Or.inl ⟨host.scene, Or.inl rfl, rfl⟩
  · rw [if_neg none] at launches
    generalize launched : host.launch programs part (some session.group)
      ⟨argv, some session.display⟩ = launch at launches
    obtain ⟨id, later⟩ := launch
    rcases Host.launch_cases launched with ⟨problem, scene, rfl, left, rfl⟩ | ⟨rfl, _, rfl⟩
    · cases launches
      exact Or.inl ⟨scene, left, rfl⟩
    · cases launches
      exact Or.inr ⟨_, rfl, rfl, rfl, rfl⟩

/-- A start launches the framebuffer into a group of its own. -/
def Launches (programs : Programs τ) (config : Config) (host : Host τ)
    (result : Except SpawnProblem Nat) (after : Host τ) : Prop :=
  host.launch programs .framebuffer none (framebufferInvocation config) = (result, after)

/-- How a start goes: its result and the machine after it, by the point that it reaches. -/
inductive Start (programs : Programs τ) (config : Config) (id : String) (host : Host τ) :
    Except Failure Session → Host τ → Prop
  | unlaunched {problem : SpawnProblem} {after : Host τ} :
      Launches programs config host (.error problem) after →
      Start programs config id host (.error problem.failure) after
  | unready {framebuffer : Nat} {launched waited : Host τ} {failure : Failure} :
      Launches programs config host (.ok framebuffer) launched →
      waitUntilReady programs config (opened config id framebuffer) launched =
        (.error failure, waited) →
      Start programs config id host (.error failure) ((opened config id framebuffer).stop waited).2
  | unserved {framebuffer : Nat} {launched waited served : Host τ} {problem : SpawnProblem} :
      Launches programs config host (.ok framebuffer) launched →
      waitUntilReady programs config (opened config id framebuffer) launched = (.ok (), waited) →
      launchApps programs config (opened config id framebuffer) waited =
        (.error problem, served) →
      Start programs config id host (.error problem.failure)
        ((opened config id framebuffer).stop served).2
  | started {framebuffer : Nat} {launched waited served : Host τ} :
      Launches programs config host (.ok framebuffer) launched →
      waitUntilReady programs config (opened config id framebuffer) launched = (.ok (), waited) →
      launchApps programs config (opened config id framebuffer) waited = (.ok (), served) →
      Start programs config id host (.ok (opened config id framebuffer)) served

theorem start_goes
    (programs : Programs τ) (config : Config) (id : String) (host : Host τ) :
    Start programs config id host (start programs config id host).1
      (start programs config id host).2 := by
  unfold start
  cases launches : host.launch programs .framebuffer none (framebufferInvocation config) with
  | mk result launched =>
      cases result with
      | error problem => exact .unlaunched launches
      | ok framebuffer =>
          dsimp only
          cases waits : waitUntilReady programs config (opened config id framebuffer) launched with
          | mk result waited =>
              cases result with
              | error failure => exact .unready launches waits
              | ok _ =>
                  dsimp only
                  cases serves : launchApps programs config (opened config id framebuffer)
                      waited with
                  | mk result served =>
                      cases result with
                      | error problem => exact .unserved launches waits serves
                      | ok _ => exact .started launches waits serves

/-- Waiting that fails does so for want of time. -/
theorem failure_of_waitUntilReady
    {session : Session} {host after : Host τ} {failure : Failure}
    (waits : waitUntilReady programs config session host = (.error failure, after)) :
    ∃ waited, failure = session.timeout waited := by
  unfold waitUntilReady at waits
  dsimp only at waits
  generalize awaitReady programs config session _ (host.readClock programs).2 = wait at waits
  obtain ⟨readiness, looked⟩ := wait
  cases readiness with
  | ready => cases waits
  | notReady =>
      cases waits
      exact ⟨_, rfl⟩

end Session

end DesktopAgent.Display
