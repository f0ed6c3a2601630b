import DesktopAgent.Agent.Computer
import DesktopAgent.Display.Command
import DesktopAgent.Display.Session
import DesktopAgent.Text.Base64
import DesktopAgent.Text.Blank

/-!
The computer made of a virtual display.

An executor holds at most one session. It carries out actions with the input tool, whose failures it
passes over, lets the display settle and takes a picture; asking where the pointer is takes none.
-/

namespace DesktopAgent.Display

open DesktopAgent.Text

/-- An executor on its machine: the session that it holds, if any. -/
structure Desk (τ : Type) where
  session : Option Session
  host : Host τ

/-- Why there is no picture. -/
inductive CaptureProblem where
  | notStarted (problem : SpawnProblem)
  | failed (stderr : String)
  | unreadable (path : String)
deriving DecidableEq, Repr

namespace CaptureProblem

def missingFileReason : String := "No such file or directory (os error 2)"

def message : CaptureProblem → String
  | .notStarted problem => problem.failure.message
  | .failed stderr => "capture failed: " ++ trimmed stderr
  | .unreadable path => "read " ++ path ++ ": " ++ missingFileReason

def failure (problem : CaptureProblem) : Failure := .screenshot problem.message

end CaptureProblem

namespace Desk

variable {τ : Type} (programs : Programs τ) (config : Config)

def idle (host : Host τ) : Desk τ := ⟨none, host⟩

/-- Starts the display with a session of an id, unless a session is held. -/
def start (id : String) (desk : Desk τ) : Except Failure Unit × Desk τ :=
  match desk.session with
  | some _ => (.error .displayAlreadyStarted, desk)
  | none =>
      match Session.start programs config id desk.host with
      | (.ok session, host) => (.ok (), ⟨some session, host⟩)
      | (.error failure, host) => (.error failure, ⟨none, host⟩)

def stop (desk : Desk τ) : Desk τ :=
  match desk.session with
  | some session => ⟨none, (session.stop desk.host).2⟩
  | none => desk

/-- Gives the executor up for a new one. -/
def drop (desk : Desk τ) : Desk τ :=
  match desk.session with
  | some session => ⟨none, session.drop desk.host⟩
  | none => desk

def isHealthy (desk : Desk τ) : Bool :=
  desk.session.any fun session => session.isHealthy programs desk.host

def capture (session : Session) (host : Host τ) : Except CaptureProblem String × Host τ :=
  let (result, host) := session.run programs config.capture ["-o", session.picture] host
  match result with
  | .error problem => (.error (.notStarted problem), host)
  | .ok output =>
      if output.success then
        match host.files.read? session.picture with
        | some bytes => (.ok (Base64.encode bytes), host)
        | none => (.error (.unreadable session.picture), host)
      else (.error (.failed output.stderr), host)

def input (session : Session) (arguments : List String) (host : Host τ) :
    Option String × Host τ :=
  let (result, host) := session.run programs config.input arguments host
  match result with
  | .ok output => (if output.success then some output.stdout else none, host)
  | .error _ => (none, host)

/-- Runs input commands one after the other, whether they succeed or not. -/
def inputAll (session : Session) (commands : List (List String)) (host : Host τ) : Host τ :=
  commands.foldl (fun host arguments => (input programs config session arguments host).2) host

def pictureResult {α : Type} (view : String → α) : Except CaptureProblem String → Except Failure α
  | .ok base64 => .ok (view base64)
  | .error problem => .error problem.failure

def screenshot (desk : Desk τ) : Except Failure String × Desk τ :=
  match desk.session with
  | none => (.error .displayNotStarted, desk)
  | some session =>
      let (result, host) := capture programs config session desk.host
      (pictureResult id result, ⟨some session, host⟩)

def executeIn (session : Session) (action : Action) (host : Host τ) :
    Except Failure Observation × Host τ :=
  match action with
  | .cursorPosition =>
      let (report, host) := input programs config session locateArguments host
      (.ok (.cursorPosition (trimmed (report.getD ""))), host)
  | action =>
      let host := inputAll programs config session (commands config.typingDelayMs action) host
      let (result, host) :=
        capture programs config session (host.pause programs config.actionSettle)
      (pictureResult .screenshot result, host)

def execute (action : Action) (desk : Desk τ) : Except Failure Observation × Desk τ :=
  match desk.session with
  | none => (.error .displayNotStarted, desk)
  | some session =>
      let (result, host) := executeIn programs config session action desk.host
      (result, ⟨some session, host⟩)

def computer : Computer (Desk τ) where
  dimensions := config.dimensions
  screenshot := screenshot programs config
  execute := execute programs config

end Desk

end DesktopAgent.Display
