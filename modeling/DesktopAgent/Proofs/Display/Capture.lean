import DesktopAgent.Proofs.Display.Tasks

/-!
How a capture goes.

A capture gives a picture when its command can be started, succeeds and leaves a file to be read,
and otherwise says which of these it was that failed. An action that shows the screen gives what the
capture after its input commands gives.
-/

namespace DesktopAgent.Display

open DesktopAgent.Text

variable {τ : Type} {programs : Programs τ} {config : Config} {session : Session}

namespace Host

variable {invocation : Invocation} {host : Host τ}

theorem runCommand_of_started (starts : (host.attempt programs invocation).1 = .ok ()) :
    (host.runCommand programs invocation).1 = .ok (programs.effect invocation host).output ∧
      (host.runCommand programs invocation).2.files = (programs.effect invocation host).files := by
  unfold runCommand
  generalize attempted : host.attempt programs invocation = attempt at starts
  obtain ⟨result, after⟩ := attempt
  rcases attempt_cases attempted with ⟨problem, _, rfl, _, _⟩ | ⟨rfl, rfl, _⟩
  · cases starts
  · exact ⟨rfl, rfl⟩

theorem runCommand_of_refused
    {problem : SpawnProblem} (refused : (host.attempt programs invocation).1 = .error problem) :
    (host.runCommand programs invocation).1 = .error problem ∧
      (host.runCommand programs invocation).2.files = host.files := by
  unfold runCommand
  generalize attempted : host.attempt programs invocation = attempt at refused
  obtain ⟨result, after⟩ := attempt
  rcases attempt_cases attempted with ⟨_, scene, rfl, _, rfl⟩ | ⟨rfl, rfl, _⟩
  · cases refused
    exact ⟨rfl, rfl⟩
  · cases refused

end Host

/-- A capture can be started, succeeds and leaves these bytes to be read. -/
structure Takes (programs : Programs τ) (config : Config) (session : Session) (host : Host τ)
    (bytes : List UInt8) : Prop where
  starts : (host.attempt programs (Task.capture.invocation config session)).1 = .ok ()
  succeeds : (programs.effect (Task.capture.invocation config session) host).output.success = true
  leaves : (programs.effect (Task.capture.invocation config session) host).files.read?
    session.picture = some bytes

/-- Why a capture takes no picture. -/
inductive Misses (programs : Programs τ) (config : Config) (session : Session) (host : Host τ) :
    CaptureProblem → Prop
  | notStarted {problem : SpawnProblem} :
      (host.attempt programs (Task.capture.invocation config session)).1 = .error problem →
      Misses programs config session host (.notStarted problem)
  | failed :
      (host.attempt programs (Task.capture.invocation config session)).1 = .ok () →
      (programs.effect (Task.capture.invocation config session) host).output.success = false →
      Misses programs config session host (.failed (Utf8.decode
        (programs.effect (Task.capture.invocation config session) host).output.stderr))
  | unreadable :
      (host.attempt programs (Task.capture.invocation config session)).1 = .ok () →
      (programs.effect (Task.capture.invocation config session) host).output.success = true →
      (programs.effect (Task.capture.invocation config session) host).files.read?
        session.picture = none →
      Misses programs config session host (.unreadable session.picture)

theorem Misses.not_takes
    {host : Host τ} {problem : CaptureProblem}
    (misses : Misses programs config session host problem) (bytes : List UInt8) :
    ¬ Takes programs config session host bytes := by
  intro takes
  cases misses with
  | notStarted refused =>
      rw [takes.starts] at refused
      cases refused
  | failed _ failure =>
      rw [takes.succeeds] at failure
      cases failure
  | unreadable _ _ missing =>
      rw [takes.leaves] at missing
      cases missing

theorem takes_of_succeeded
    {host : Host τ} {bytes : List UInt8}
    (succeeds : .ofRun (host.runCommand programs (Task.capture.invocation config session)).1 =
      Outcome.succeeded)
    (file : (host.runCommand programs (Task.capture.invocation config session)).2.files.read?
      session.picture = some bytes) :
    Takes programs config session host bytes := by
  cases started : (host.attempt programs (Task.capture.invocation config session)).1 with
  | error problem =>
      rw [(Host.runCommand_of_refused started).1] at succeeds
      cases succeeds
  | ok _ =>
      obtain ⟨given, files⟩ := Host.runCommand_of_started started
      rw [given] at succeeds
      rw [files] at file
      refine ⟨started, Bool.of_not_eq_false fun failure => ?_, file⟩
      rw [Outcome.ofRun, failure] at succeeds
      cases succeeds

namespace Desk

variable (programs config session) in
/-- A capture gives the picture that it takes, or says why it takes none. -/
theorem capture_cases (host : Host τ) :
    (∃ bytes, Takes programs config session host bytes ∧
      (capture programs config session host).1 = .ok (Base64.encode bytes)) ∨
    ∃ problem, Misses programs config session host problem ∧
      (capture programs config session host).1 = .error problem := by
  generalize ran : host.runCommand programs (Task.capture.invocation config session) = run
  obtain ⟨given, after⟩ := run
  have command : host.runCommand programs
      (session.invocation config.capture ["-o", session.picture]) = (given, after) := ran
  unfold capture Session.run
  rw [command]
  cases started : (host.attempt programs (Task.capture.invocation config session)).1 with
  | error problem =>
      have refused := Host.runCommand_of_refused started
      rw [ran] at refused
      obtain rfl : given = .error problem := refused.1
      exact Or.inr ⟨_, .notStarted started, rfl⟩
  | ok _ =>
      have done := Host.runCommand_of_started started
      rw [ran] at done
      obtain ⟨rfl : given = _, files : after.files = _⟩ := done
      simp only [Except.map, CommandOutput.ofOutput, files]
      cases success :
          (programs.effect (Task.capture.invocation config session) host).output.success with
      | false => exact Or.inr ⟨_, .failed started success, rfl⟩
      | true =>
          cases file : (programs.effect (Task.capture.invocation config session)
              host).files.read? session.picture with
          | none => exact Or.inr ⟨_, .unreadable started success file, rfl⟩
          | some bytes => exact Or.inl ⟨bytes, ⟨started, success, file⟩, rfl⟩

theorem capture_of_takes
    {host : Host τ} {bytes : List UInt8} (takes : Takes programs config session host bytes) :
    (capture programs config session host).1 = .ok (Base64.encode bytes) := by
  rcases capture_cases programs config session host with
    ⟨taken, others, given⟩ | ⟨problem, misses, _⟩
  · have same := others.leaves
    rw [takes.leaves] at same
    rw [given, Option.some.inj same]
  · exact absurd takes (misses.not_takes bytes)

theorem executeIn_of_ne
    {action : Action} (shows : action ≠ .cursorPosition) (host : Host τ) :
    (executeIn programs config session action host).1 =
      pictureResult .screenshot (capture programs config session
        (settled programs config session action host)).1 := by
  rw [settled, runTasks_inputs]
  cases action
  case cursorPosition => exact absurd rfl shows
  all_goals rfl

end Desk

end DesktopAgent.Display
