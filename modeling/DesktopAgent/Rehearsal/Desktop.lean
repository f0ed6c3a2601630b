import DesktopAgent.Display.Executor
import DesktopAgent.Rehearsal.Shell.Run

/-!
A machine with stand-ins for the programs of a display.

The screen is a record of the input commands that succeeded, one line each, and a picture is a copy
of it. Each run of a stand-in may follow a script; where the script says nothing, the run succeeds.
Beside the stand-ins there are a few standard programs, which end soon unless they wait, and nothing
else.
-/

namespace DesktopAgent.Rehearsal

open DesktopAgent.Display
open DesktopAgent.Text

inductive Tool where
  | framebuffer
  | windowManager
  | browser
  | probe
  | capture
  | input
deriving DecidableEq, Repr

namespace Tool

def all : List Tool := [.framebuffer, .windowManager, .browser, .probe, .capture, .input]

def name : Tool → String
  | .framebuffer => "framebuffer"
  | .windowManager => "window_manager"
  | .browser => "browser"
  | .probe => "probe"
  | .capture => "capture"
  | .input => "input"

def program (tool : Tool) : String := "/stand-in/" ++ tool.name

def ofProgram? (program : String) : Option Tool :=
  all.find? fun tool => tool.program = program

def ofArgv? (argv : Argv) : Option Tool := argv.head?.bind ofProgram?

end Tool

/-- How one run of a stand-in goes: the status that it ends with, what it writes, the picture that
it takes instead of the screen's, whether it takes none at all, and whether it waits until the
framebuffer has ended. -/
structure Script where
  status : Int
  stdout : Option (List UInt8)
  stderr : List UInt8
  picture : Option (List UInt8)
  takesNone : Bool
  waits : Bool
deriving DecidableEq, Repr

/-- A run of which the script says nothing. -/
def Script.free : Script := ⟨0, none, [], none, false, false⟩

/-- A stage: the directories that the machine has beside the usual ones, the scripts of the runs to
come, whether a framebuffer that is waited for ends by itself, the screen, and where the pointer is.
-/
structure Stage where
  directories : List String
  probes : List Script
  captures : List Script
  inputs : List Script
  framebufferEnds : Bool
  screen : List UInt8
  pointer : String × String
deriving DecidableEq, Repr

namespace Stage

/-- What the screen shows before anything is done. -/
def emptyScreen : List UInt8 := Utf8.encode "desktop\n"

def ofScripts (directories : List String) (probes captures inputs : List Script)
    (framebufferEnds : Bool) : Stage :=
  ⟨directories, probes, captures, inputs, framebufferEnds, emptyScreen, ("0", "0")⟩

/-- The line that an input command leaves on the screen. -/
def lineOf (arguments : List String) : List UInt8 :=
  Utf8.encode (" ".intercalate arguments ++ "\n")

def pointerReport (stage : Stage) : String :=
  "x:" ++ stage.pointer.1 ++ " y:" ++ stage.pointer.2 ++ " screen:0 window:1\n"

/-- Whether an input command asks where the pointer is. -/
def asksPointer (arguments : List String) : Bool := arguments.head? = some "getmouselocation"

def afterInput (stage : Stage) (arguments : List String) : Stage :=
  if asksPointer arguments then stage
  else
    let stage := { stage with screen := stage.screen ++ lineOf arguments }
    match arguments with
    | "mousemove" :: _ :: x :: y :: _ => { stage with pointer := (x, y) }
    | _ => stage

end Stage

/-- The output of a run that goes by a script. Of a status only the lowest byte is told. -/
def Script.output (script : Script) (stdout : List UInt8) : Output :=
  ⟨script.stdout.getD stdout, script.stderr, script.status % 256 = 0⟩

def lastFramebuffer? (processes : List Process) : Option Nat :=
  (processes.reverse.find? fun process => process.part = .framebuffer).map (·.id)

def probeEffect (host : Host Stage) : Effect Stage :=
  let stage := host.scene
  let script := stage.probes.head?.getD .free
  let ended :=
    if script.waits && stage.framebufferEnds then (lastFramebuffer? host.processes).toList else []
  ⟨script.output [], { stage with probes := stage.probes.tail }, host.files, ended⟩

def captureEffect (arguments : List String) (host : Host Stage) : Effect Stage :=
  let stage := host.scene
  let script := stage.captures.head?.getD .free
  let files :=
    match arguments.getLast? with
    | some path =>
        if script.status = 0 && !script.takesNone then
          host.files.write path (script.picture.getD stage.screen)
        else host.files
    | none => host.files
  ⟨script.output [], { stage with captures := stage.captures.tail }, files, []⟩

def inputEffect (arguments : List String) (host : Host Stage) : Effect Stage :=
  let stage := { host.scene with inputs := host.scene.inputs.tail }
  let script := host.scene.inputs.head?.getD .free
  if script.status = 0 then
    let report := if Stage.asksPointer arguments then Utf8.encode stage.pointerReport else []
    ⟨script.output report, stage.afterInput arguments, host.files, []⟩
  else ⟨script.output [], stage, host.files, []⟩

def diskOf (host : Host Stage) : Disk := ⟨host.files, host.scene.directories⟩

/-- The variables that a standard program sees: those of the machine and the display. -/
def variablesOf (invocation : Invocation) : List (String × String) :=
  [("HOME", "/root"), ("PATH", Shell.State.usualPath)] ++
    (invocation.display.map fun display => ("DISPLAY", Octets.encode display)).toList

/-- What a standard program sees. Its input has nothing. -/
def surroundingsOf (invocation : Invocation) (host : Host Stage) : Surroundings where
  environment name := (variablesOf invocation).lookup name
  disk := diskOf host
  input := []

/-- What a standard program leaves and the files after it, if a command runs one. -/
def standardFinish? (invocation : Invocation) (host : Host Stage) : Option (Finish × Files) :=
  match invocation.argv with
  | [] => none
  | program :: arguments =>
      let called := Octets.encode program
      let arguments := arguments.map Octets.encode
      match (diskOf host).commandPlace program with
      | .program "sh" =>
          let (finish, disk) :=
            Shell.runProgram (diskOf host) (variablesOf invocation) host.nextProcess called
              arguments
          some (finish, disk.files)
      | .program name =>
          (standardProgram? (surroundingsOf invocation host) name called arguments).map
            fun finish => (finish, host.files)
      | _ => none

/-- How many milliseconds a program takes at least of which it is told that it is still there. -/
def noticeableDuration : Nat := 1000

/-- The length in bytes that no argument reaches. -/
def argumentLimit : Nat := 131072

/-- What is said of a place that leads to no program. -/
def placeReason? : Place → Option String
  | .program _ => none
  | .directory | .data _ => some "Permission denied (os error 13)"
  | .absent | .missing => some "No such file or directory (os error 2)"
  | .throughFile => some "Not a directory (os error 20)"
  | .nameTooLong => some "File name too long (os error 36)"

/-- What is said of arguments of which one is too long. -/
def argumentsReason? (argv : Argv) : Option String :=
  if argv.any fun argument => argumentLimit ≤ argument.utf8ByteSize then
    some "Argument list too long (os error 7)"
  else none

def refusalOf (argv : Argv) (host : Host Stage) : Option String :=
  let isStandIn := (Tool.ofArgv? argv).isSome
  let place := (diskOf host).commandPlace (argv.head?.getD "")
  (if isStandIn then none else placeReason? place).or (argumentsReason? argv)

/-- Whether a launched program ends soon: it is no stand-in and does not wait. -/
def endsSoon (host : Host Stage) (process : Process) : Bool :=
  (Tool.ofArgv? process.invocation.argv).isNone &&
    !((standardFinish? process.invocation host).any fun finish =>
        noticeableDuration ≤ finish.1.duration)

def endingSoon (host : Host Stage) : List Nat :=
  (host.processes.filter (endsSoon host)).map (·.id)

/-- What a command does by itself. -/
def ownEffect (invocation : Invocation) (host : Host Stage) : Effect Stage :=
  match Tool.ofArgv? invocation.argv with
  | some .probe => probeEffect host
  | some .capture => captureEffect invocation.argv.tail host
  | some .input => inputEffect invocation.argv.tail host
  | _ =>
      let (finish, files) := (standardFinish? invocation host).getD (.silent 0, host.files)
      ⟨⟨finish.bytes 1, finish.bytes 2, finish.status = 0⟩, host.scene, files, []⟩

def effectOf (invocation : Invocation) (host : Host Stage) : Effect Stage :=
  let effect := ownEffect invocation host
  { effect with ended := effect.ended ++ endingSoon host }

/-- The programs of the machine. Its system tells everything and permits every signal, and the clock
shows hardly more than the pauses. -/
def programs : Programs Stage where
  refusal argv host := (refusalOf argv host).map fun reason => (reason, host.scene)
  effect := effectOf
  idle _ host := (host.scene, endingSoon host)
  delay _ := 0
  untold _ _ := false
  permits _ _ := true

/-- The commands among some that ran a stand-in. -/
def standInRuns (ran : List Invocation) : List (Tool × Invocation) :=
  ran.filterMap fun invocation =>
    (Tool.ofArgv? invocation.argv).map fun tool => (tool, invocation)

def pictures (files : Files) : Files :=
  files.filter fun file =>
    ((file.1.splitOn "/").getLast?.getD "").startsWith Session.picturePrefix

end DesktopAgent.Rehearsal
