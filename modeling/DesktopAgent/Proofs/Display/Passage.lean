import DesktopAgent.Display.Executor
import DesktopAgent.Proofs.Display.Command

/-!
What a machine goes through while nothing is launched.

Probes, input commands and captures are runs of commands with pauses between them. A relation
between a machine and the same machine later that each pause and each such run keeps is therefore
kept by everything that a session or an executor does apart from launching and stopping. One such
relation is that of ageing: processes end, and none appears.
-/

namespace DesktopAgent.Display

variable {τ : Type} {programs : Programs τ} {config : Config} {session : Session}

theorem Session.probe_host (host : Host τ) :
    (session.probe programs config host).2 =
      if session.framebufferEnded programs host then host
      else (host.runCommand programs (session.invocation config.probe [])).2 := by
  unfold Session.probe Session.run
  cases ended : session.framebufferEnded programs host with
  | true => rfl
  | false =>
      obtain ⟨result, after⟩ :=
        host.runCommand programs (session.invocation config.probe [])
      cases result with
      | error problem => rfl
      | ok output => cases success : output.success <;>
          simp [Except.map, CommandOutput.ofOutput, success]

theorem Desk.capture_host (host : Host τ) :
    (Desk.capture programs config session host).2 =
      (host.runCommand programs
        (session.invocation config.capture ["-o", session.picture])).2 := by
  unfold Desk.capture Session.run
  obtain ⟨result, after⟩ :=
    host.runCommand programs (session.invocation config.capture ["-o", session.picture])
  cases result with
  | error problem => rfl
  | ok output =>
      cases success : output.success with
      | false => simp [Except.map, CommandOutput.ofOutput, success]
      | true =>
          cases bytes : after.files.read? session.picture <;>
            simp [Except.map, CommandOutput.ofOutput, success, bytes]

theorem Desk.input_host (arguments : List String) (host : Host τ) :
    (Desk.input programs config session arguments host).2 =
      (host.runCommand programs (session.invocation config.input arguments)).2 := by
  unfold Desk.input Session.run
  obtain ⟨result, after⟩ :=
    host.runCommand programs (session.invocation config.input arguments)
  cases result with
  | error problem => rfl
  | ok output => rfl

theorem Desk.executeIn_host (action : Action) (host : Host τ) :
    (Desk.executeIn programs config session action host).2 =
      if action = .cursorPosition then
        (Desk.input programs config session locateArguments host).2
      else
        (Desk.capture programs config session
          ((Desk.inputAll programs config session (commands config.typingDelayMs action)
            host).pause programs config.actionSettle)).2 := by
  cases action <;> rfl

/-- A relation between a machine and the same machine later that is kept while time passes. -/
structure Passage (programs : Programs τ) (later : Host τ → Host τ → Prop) : Prop where
  refl : ∀ host, later host host
  trans : ∀ {first second third}, later first second → later second third → later first third
  pause : ∀ (span : Span) (host : Host τ), later host (host.pause programs span)
  readClock : ∀ host : Host τ, later host (host.readClock programs).2

/-- A command leads to a later state of whatever machine it is run on. -/
def LeadsOn (programs : Programs τ) (later : Host τ → Host τ → Prop)
    (invocation : Invocation) : Prop :=
  ∀ host : Host τ, later host (host.runCommand programs invocation).2

/-- The commands that an executor runs within a session lead on. -/
structure ActionsLeadOn (programs : Programs τ) (config : Config)
    (later : Host τ → Host τ → Prop) (session : Session) : Prop where
  capture : LeadsOn programs later
    (session.invocation config.capture ["-o", session.picture])
  input : ∀ arguments, IsInput config arguments →
    LeadsOn programs later (session.invocation config.input arguments)

namespace Passage

variable {later : Host τ → Host τ → Prop}

theorem probe
    (passage : Passage programs later)
    (probes : LeadsOn programs later (session.invocation config.probe [])) (host : Host τ) :
    later host (session.probe programs config host).2 := by
  rw [Session.probe_host]
  by_cases ended : session.framebufferEnded programs host
  · rw [if_pos ended]
    exact passage.refl host
  · rw [if_neg ended]
    exact probes host

theorem awaitReady
    (passage : Passage programs later)
    (probes : LeadsOn programs later (session.invocation config.probe [])) (deadline : Nat)
    (host : Host τ) :
    later host (session.awaitReady programs config deadline host).2 := by
  induction host using Session.awaitReady.induct programs config session deadline with
  | case1 host _ readiness settled =>
      rw [Session.awaitReady, settled]
      exact passage.probe probes host
  | case2 host _ unsettled _ inTime inductionHypothesis =>
      have looked := passage.trans (passage.probe probes host) (passage.readClock _)
      rw [Session.awaitReady, unsettled]
      dsimp only
      rw [if_pos inTime]
      exact passage.trans (passage.trans looked (passage.pause _ _)) inductionHypothesis
  | case3 host _ unsettled _ inTime =>
      have looked := passage.trans (passage.probe probes host) (passage.readClock _)
      rw [Session.awaitReady, unsettled]
      dsimp only
      rw [if_neg inTime]
      exact looked

theorem waitUntilReady
    (passage : Passage programs later)
    (probes : LeadsOn programs later (session.invocation config.probe [])) (host : Host τ) :
    later host (session.waitUntilReady programs config host).2 := by
  have waited : later (host.readClock programs).2 (session.awaitReady programs config
      ((host.readClock programs).1 + config.startTimeout) (host.readClock programs).2).2 :=
    passage.awaitReady probes _ _
  have began := passage.trans (passage.readClock host) waited
  unfold Session.waitUntilReady
  dsimp only
  generalize session.awaitReady programs config _ (host.readClock programs).2 = wait at began
  obtain ⟨readiness, after⟩ := wait
  cases readiness with
  | ready => exact began
  | notReady => exact passage.trans began (passage.readClock after)

theorem inputAll
    (passage : Passage programs later) (commands : List (List String))
    (inputs : ∀ arguments ∈ commands,
      LeadsOn programs later (session.invocation config.input arguments)) :
    ∀ host : Host τ, later host (Desk.inputAll programs config session commands host) := by
  induction commands with
  | nil => exact passage.refl
  | cons arguments rest inductionHypothesis =>
      intro host
      have first : later host (Desk.input programs config session arguments host).2 := by
        rw [Desk.input_host]
        exact inputs arguments List.mem_cons_self host
      have others := inductionHypothesis
        (fun other member => inputs other (List.mem_cons_of_mem arguments member))
        (Desk.input programs config session arguments host).2
      exact passage.trans first others

theorem executeIn
    (passage : Passage programs later) (actions : ActionsLeadOn programs config later session)
    (action : Action) (host : Host τ) :
    later host (Desk.executeIn programs config session action host).2 := by
  rw [Desk.executeIn_host]
  by_cases asks : action = .cursorPosition
  · rw [if_pos asks, Desk.input_host]
    exact actions.input locateArguments (Or.inl rfl) host
  · rw [if_neg asks, Desk.capture_host]
    have inputs := passage.inputAll (commands config.typingDelayMs action)
      (fun arguments member => actions.input arguments (Or.inr ⟨action, member⟩)) host
    have settled := passage.trans inputs (passage.pause config.actionSettle _)
    exact passage.trans settled (actions.capture _)

end Passage

namespace Host

/-- The state in which a command that could not be started leaves the programs. -/
def LeftWith (programs : Programs τ) (argv : Argv) (host : Host τ) (scene : τ) : Prop :=
  scene = host.scene ∨ ∃ reason, programs.refusal argv host = some (reason, scene)

/-- A command that cannot be started leaves at most a trace in the state of the programs, and one
that can be started has not changed anything yet. -/
theorem attempt_cases
    {invocation : Invocation} {host after : Host τ} {result : Except SpawnProblem Unit}
    (attempted : host.attempt programs invocation = (result, after)) :
    (∃ problem scene, result = .error problem ∧
      host.LeftWith programs invocation.argv scene ∧ after = { host with scene := scene }) ∨
    result = .ok () ∧ after = host ∧ invocation.argv ≠ [] ∧
      (invocation.argv.any hasZeroByte || invocation.display.any hasZeroByte) = false ∧
      programs.refusal invocation.argv host = none := by
  unfold attempt at attempted
  cases argv : invocation.argv with
  | nil =>
      rw [argv] at attempted
      cases attempted
      exact Or.inl ⟨_, host.scene, rfl, Or.inl rfl, rfl⟩
  | cons program arguments =>
      rw [argv] at attempted
      by_cases zero : ((program :: arguments).any hasZeroByte ||
          invocation.display.any hasZeroByte) = true
      · simp only [zero, if_true] at attempted
        cases attempted
        exact Or.inl ⟨_, host.scene, rfl, Or.inl rfl, rfl⟩
      · simp only [zero] at attempted
        cases refusal : programs.refusal (program :: arguments) host with
        | none =>
            rw [refusal] at attempted
            cases attempted
            rw [Bool.not_eq_true] at zero
            exact Or.inr ⟨rfl, rfl, by simp, zero, rfl⟩
        | some refused =>
            rw [refusal] at attempted
            cases attempted
            exact Or.inl ⟨_, refused.2, rfl, Or.inr ⟨refused.1, refusal⟩, rfl⟩

theorem runCommand_cases
    {invocation : Invocation} {host after : Host τ} {result : Except SpawnProblem Output}
    (ran : host.runCommand programs invocation = (result, after)) :
    (∃ problem scene, result = .error problem ∧
      host.LeftWith programs invocation.argv scene ∧ after = { host with scene := scene }) ∨
    result = .ok (programs.effect invocation host).output ∧
      after = { host with
        processes := reap (programs.effect invocation host).ended host.processes
        files := (programs.effect invocation host).files
        ran := host.ran ++ [invocation]
        scene := (programs.effect invocation host).scene } := by
  unfold runCommand at ran
  generalize attempted : host.attempt programs invocation = attempt at ran
  obtain ⟨started, before⟩ := attempt
  rcases attempt_cases attempted with ⟨problem, scene, rfl, left, rfl⟩ | ⟨rfl, rfl, _⟩
  · cases ran
    exact Or.inl ⟨problem, scene, rfl, left, rfl⟩
  · cases ran
    exact Or.inr ⟨rfl, rfl⟩

/-- A machine later, when processes may have ended and none has been launched. -/
structure Aged (before after : Host τ) : Prop where
  processes : after.processes.Sublist before.processes
  launched : after.launched = before.launched
  nextProcess : after.nextProcess = before.nextProcess

theorem reap_sublist (ended : List Nat) (processes : List Process) :
    (reap ended processes).Sublist processes :=
  List.filter_sublist

theorem aged_kill (id : Nat) (host : Host τ) : host.Aged (host.kill id) :=
  ⟨reap_sublist _ _, rfl, rfl⟩

theorem aged_passage : Passage programs (Aged (τ := τ)) where
  refl _ := ⟨List.Sublist.refl _, rfl, rfl⟩
  trans first second :=
    ⟨second.processes.trans first.processes, second.launched.trans first.launched,
      second.nextProcess.trans first.nextProcess⟩
  pause _ _ := ⟨reap_sublist _ _, rfl, rfl⟩
  readClock _ := ⟨List.Sublist.refl _, rfl, rfl⟩

theorem aged_leadsOn (invocation : Invocation) :
    LeadsOn programs (Aged (τ := τ)) invocation := by
  intro host
  generalize ran : host.runCommand programs invocation = run
  obtain ⟨result, after⟩ := run
  rcases runCommand_cases ran with ⟨problem, scene, _, _, rfl⟩ | ⟨_, rfl⟩
  · exact ⟨List.Sublist.refl _, rfl, rfl⟩
  · exact ⟨reap_sublist _ _, rfl, rfl⟩

end Host

end DesktopAgent.Display
