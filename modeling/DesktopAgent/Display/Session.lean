import DesktopAgent.Display.Host
import DesktopAgent.Text.Quoted
import DesktopAgent.Text.Utf8

/-!
One live virtual display.

A session starts a framebuffer, waits until a probe succeeds while the framebuffer has not been seen
to end, and launches the window manager and the browser into the framebuffer's process group.
Stopping it ends the group and removes the picture.
-/

namespace DesktopAgent.Display

open DesktopAgent.Text

/-- A session: its display and size, its id, where its picture is kept, the framebuffer until it is
stopped, and the process group. The place of the picture is the text that shows its path. -/
structure Session where
  display : String
  width : UInt32
  height : UInt32
  id : String
  picture : String
  framebuffer : Option Nat
  group : Nat
deriving DecidableEq, Repr

structure CommandOutput where
  stdout : String
  stderr : String
  success : Bool
deriving DecidableEq, Repr

def CommandOutput.ofOutput (output : Output) : CommandOutput :=
  ⟨Utf8.decode output.stdout, Utf8.decode output.stderr, output.success⟩

namespace Session

def picturePrefix : String := "cua-screenshot-"

/-- A name within a directory. -/
def join (directory name : String) : String :=
  if directory.isEmpty || directory.endsWith "/" then directory ++ name
  else directory ++ "/" ++ name

/-- Where the picture of a session is kept. -/
def pictureOf (config : Config) (id : String) : String :=
  join config.screenshotDir (picturePrefix ++ id ++ ".png")

/-- A session whose framebuffer has just been launched and leads a group of its own. -/
def opened (config : Config) (id : String) (framebuffer : Nat) : Session where
  display := config.display
  width := config.width
  height := config.height
  id := id
  picture := pictureOf config id
  framebuffer := some framebuffer
  group := framebuffer

def geometry (config : Config) : String :=
  Numeral.text config.width.toNat ++ "x" ++ Numeral.text config.height.toNat ++ "x24"

/-- The framebuffer's command. It is not told a display through its environment. -/
def framebufferInvocation (config : Config) : Invocation where
  argv := if config.framebuffer.isEmpty then [] else
    config.framebuffer ++ [config.display, "-screen", "0", geometry config, "-ac"]
  display := none

variable {τ : Type} (programs : Programs τ)

/-- The command `argv` with further arguments on the session's display. -/
def invocation (session : Session) (argv extra : List String) : Invocation where
  argv := if argv.isEmpty then [] else argv ++ extra
  display := some session.display

def run (session : Session) (argv extra : List String) (host : Host τ) :
    Except SpawnProblem CommandOutput × Host τ :=
  let (result, host) := host.runCommand programs (session.invocation argv extra)
  (result.map CommandOutput.ofOutput, host)

def isRunning (session : Session) : Bool := session.framebuffer.isSome

/-- Whether there is no framebuffer, or it is known to have ended. -/
def framebufferEnded (session : Session) (host : Host τ) : Bool :=
  match session.framebuffer with
  | none => true
  | some framebuffer => host.hasEnded? programs framebuffer == some true

/-- Whether the framebuffer is known to be alive and the leader of its group can be signalled. A
framebuffer of which nothing is told is not healthy, and has not ended either. -/
def isHealthy (session : Session) (host : Host τ) : Bool :=
  match session.framebuffer with
  | none => false
  | some framebuffer =>
      host.hasEnded? programs framebuffer == some false && host.takesSignal programs session.group

/-- Ends the process group, if the session has not been stopped, and removes the picture. -/
def stop (session : Session) (host : Host τ) : Session × Host τ :=
  let host := if session.isRunning then host.killGroup session.group else host
  ({ session with framebuffer := none }, host.removeFile session.picture)

/-- What happens to a session that is given up: the same, unless it has been stopped. -/
def drop (session : Session) (host : Host τ) : Host τ :=
  if session.isRunning then (host.killGroup session.group).removeFile session.picture else host

inductive Readiness where
  | ready
  | notReady
deriving DecidableEq, Repr

/-- Probes the display once: whether it is settled that the display is ready or that it is not. -/
def probe (session : Session) (config : Config) (host : Host τ) : Option Readiness × Host τ :=
  if session.framebufferEnded programs host then (some .notReady, host)
  else
    let (result, host) := session.run programs config.probe [] host
    match result with
    | .ok output =>
        if output.success then
          (some (if session.framebufferEnded programs host then .notReady else .ready), host)
        else (none, host)
    | .error _ => (none, host)

@[simp]
theorem clock_probe (session : Session) (config : Config) (host : Host τ) :
    (session.probe programs config host).2.clock = host.clock := by
  have kept := host.clock_runCommand programs (session.invocation config.probe [])
  unfold probe run
  generalize host.runCommand programs (session.invocation config.probe []) = ran at kept
  obtain ⟨result, after⟩ := ran
  split
  · rfl
  · cases result with
    | error problem => exact kept
    | ok output =>
        dsimp only [Except.map]
        split <;> exact kept

/-- Probes the display until that is settled or the deadline has passed, with pauses in between. The
clock, which is read after each probe that settles nothing, shows more each time. -/
def awaitReady (config : Config) (session : Session) (deadline : Nat) (host : Host τ) :
    Readiness × Host τ :=
  let probed := session.probe programs config host
  match probed.1 with
  | some readiness => (readiness, probed.2)
  | none =>
      let looked := probed.2.readClock programs
      if looked.1 < deadline then
        awaitReady config session deadline (looked.2.pause programs config.pollInterval)
      else (.notReady, looked.2)
termination_by deadline - host.clock
decreasing_by
  rename_i inTime
  have before := clock_probe programs session config host
  simp only [looked, probed, Host.readClock, Host.pause] at inTime ⊢
  omega

/-- The failure of a display that did not become ready in a span of time. -/
def timeout (session : Session) (waited : Span) : Failure :=
  .displayStartTimeout session.display waited.milliseconds

def waitUntilReady (config : Config) (session : Session) (host : Host τ) :
    Except Failure Unit × Host τ :=
  let (began, host) := host.readClock programs
  match awaitReady programs config session (began + config.startTimeout) host with
  | (.ready, host) => (.ok (), host)
  | (.notReady, host) =>
      let (ended, host) := host.readClock programs
      (.error (session.timeout (ended - began)), host)

/-- Launches one of the programs that live on the display and lets it settle; an empty command is
none. -/
def launchApp (session : Session) (part : Part) (argv : Argv) (settle : Span) (host : Host τ) :
    Except SpawnProblem Unit × Host τ :=
  if argv.isEmpty then (.ok (), host)
  else
    match host.launch programs part (some session.group) ⟨argv, some session.display⟩ with
    | (.error problem, host) => (.error problem, host)
    | (.ok _, host) => (.ok (), host.pause programs settle)

def launchApps (config : Config) (session : Session) (host : Host τ) :
    Except SpawnProblem Unit × Host τ :=
  match session.launchApp programs .windowManager config.windowManager config.windowManagerSettle
    host with
  | (.error problem, host) => (.error problem, host)
  | (.ok (), host) =>
      session.launchApp programs .browser config.browser config.browserSettle host

/-- Starts a session of an id. A start that fails leaves no process and no picture. -/
def start (config : Config) (id : String) (host : Host τ) : Except Failure Session × Host τ :=
  match host.launch programs .framebuffer none (framebufferInvocation config) with
  | (.error problem, host) => (.error problem.failure, host)
  | (.ok framebuffer, host) =>
      let session := opened config id framebuffer
      match session.waitUntilReady programs config host with
      | (.error failure, host) => (.error failure, (session.stop host).2)
      | (.ok (), host) =>
          match session.launchApps programs config host with
          | (.error problem, host) => (.error problem.failure, (session.stop host).2)
          | (.ok (), host) => (.ok session, host)

def describe (session : Session) : String :=
  "DisplaySession \x7b display: " ++ quoted session.display ++
    ", width: " ++ Numeral.text session.width.toNat ++
    ", height: " ++ Numeral.text session.height.toNat ++
    ", session_id: " ++ quoted session.id ++
    ", pgid: " ++ Numeral.text session.group ++
    ", running: " ++ (if session.isRunning then "true" else "false") ++ " \x7d"

end Session

end DesktopAgent.Display
