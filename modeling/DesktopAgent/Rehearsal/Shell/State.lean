import DesktopAgent.Rehearsal.Shell.Script
import DesktopAgent.Rehearsal.Standard

/-!
The state of a running shell script, and what may happen to it.

What a script does is a change of its state that may keep the script from going on. What it writes
is kept under numbers or goes to files. Programs and scripts within a script have states of their
own, of which only what they share with others is left when they have ended.
-/

namespace DesktopAgent.Rehearsal.Shell

open DesktopAgent.Text

/-- The names of the signals from zero on, which stands for the end of a script. -/
def signalNames : List String :=
  ["EXIT", "HUP", "INT", "QUIT", "ILL", "TRAP", "ABRT", "BUS", "FPE", "KILL", "USR1", "SEGV",
    "USR2", "PIPE", "ALRM", "TERM", "16", "CHLD", "CONT", "STOP", "TSTP", "TTIN", "TTOU", "URG",
    "XCPU", "XFSZ", "VTALRM", "PROF", "WINCH", "IO", "PWR", "SYS"]

/-- The signal that a number or a name means. -/
def signalOf? (text : String) : Option Nat :=
  match Numeral.toNat? text.toList with
  | some number => if number < signalNames.length then some number else none
  | none => signalNames.findIdx? (· = text)

/-- What is told of a process within a script that one of the first signals has ended. -/
def signalNotices : List String :=
  ["", "Hangup", "", "Quit", "Illegal instruction", "Trace/breakpoint trap", "Aborted", "Bus error",
    "Floating point exception", "Killed", "User defined signal 1", "Segmentation fault",
    "User defined signal 2", "", "Alarm clock", "Terminated"]

/-- Whether a signal does nothing to a process that does not handle it. -/
def isHarmless (signal : Nat) : Bool := [0, 17, 18, 23, 28].contains signal

/-- Whether a signal cannot be handled. -/
def isFinal (signal : Nat) : Bool := signal = 9 || signal = 19

/-- Where a channel leads: what is written is kept under a number, goes to a file or is lost. -/
inductive Channel where
  | kept (number : Nat)
  | file (path : String)
  | nothing
deriving DecidableEq, Repr

/-- The state of a script. With other processes it shares the disk, what is kept of what they write,
the milliseconds that have passed, and the signals that have come. It has a status of its last
command and one of what its words have run last. -/
structure State where
  disk : Disk
  kept : List (List UInt8)
  time : Nat
  pending : List Nat
  name : String
  parameters : List String
  process : Nat
  line : Nat
  bindings : List (String × String)
  exported : List String
  aliases : List (String × String)
  traps : List (Nat × String)
  input : List UInt8
  channels : List (Nat × Channel)
  status : Nat
  outputStatus : Nat

namespace State

def usualPath : String := "/usr/local/sbin:/usr/local/bin:/usr/sbin:/usr/bin:/sbin:/bin"

/-- The variables that a script has when it starts, unless it has them from others. -/
def initialBindings : List (String × String) :=
  [("IFS", " \t\n"), ("OPTIND", "1"), ("PATH", usualPath), ("PS1", "# "), ("PS2", "> "),
    ("PS4", "+ ")]

/-- A script that is about to start in a process, in which it has variables from others. -/
def start (disk : Disk) (bindings : List (String × String)) (process : Nat) (name : String) :
    State where
  disk := disk
  kept := []
  time := 0
  pending := []
  name := name
  parameters := []
  process := process
  line := 1
  bindings := bindings ++ initialBindings
  exported := bindings.map Prod.fst
  aliases := []
  traps := []
  input := []
  channels := []
  status := 0
  outputStatus := 0

def environment (state : State) : List (String × String) :=
  state.bindings.filter fun binding => state.exported.contains binding.1

def set (name value : String) (state : State) : State :=
  { state with bindings := (name, value) :: state.bindings.filter fun known => known.1 ≠ name }

def share (name : String) (state : State) : State :=
  { state with exported := name :: state.exported }

/-- A state before something ran in a process of its own, with what is shared and the status as
they are after it. -/
def resume (before after : State) : State :=
  { before with
    disk := after.disk
    kept := after.kept
    time := after.time
    pending := after.pending
    status := after.status }

end State

/-- Why a script does not go on with its next command: it leaves loops, of which the last may begin
its next round; it has ended; or a signal has ended it. -/
inductive Stop where
  | leaving (levels : Nat) (again : Bool)
  | ended
  | killed (signal : Nat)
deriving DecidableEq, Repr

/-- What changes the state of a script and may keep it from going on. -/
abbrev Act := ExceptT Stop (StateM State)

namespace Act

def setStatus (status : Nat) : Act Unit := modify fun state => { state with status := status }

def leave {α : Type} (status : Nat) : Act α := do
  setStatus status
  throw .ended

/-- Ends a script that goes on for too long. -/
def exhausted {α : Type} : Act α := do
  modify fun state => { state with time := state.time + 86400000 }
  throw (.killed 13)

def write (channel : Nat) (bytes : List UInt8) : Act Unit :=
  modify fun state =>
    match state.channels.lookup channel with
    | some (.kept number) => { state with kept := state.kept.modify number (· ++ bytes) }
    | some (.file path) =>
        let before := (state.disk.files.read? path).getD []
        let files := state.disk.files.write path (before ++ bytes)
        { state with disk := { state.disk with files := files } }
    | some .nothing | none => state

/-- Writes a message with the name of the script and its line. -/
def complain (message : String) : Act Unit := do
  let state ← get
  let place := state.name ++ ": " ++ Numeral.text state.line ++ ": "
  write 2 (Octets.bytes (place ++ message ++ "\n"))

def fail {α : Type} (message : String) : Act α := do
  complain message
  leave 2

/-- Takes over what a program leaves. -/
def deliver (finish : Finish) : Act Unit := do
  for (channel, bytes) in finish.written do
    write channel bytes
  modify fun state => { state with time := state.time + finish.duration, status := finish.status }

/-- Makes a channel lead somewhere. -/
def connect (channel : Nat) (target : Channel) : Act Unit :=
  modify fun state => { state with channels := (channel, target) :: state.channels }

/-- Does something after whose end, unless a signal brings it about, something else goes on. -/
def untilEnd (inner : Act Unit) : Act Unit := do
  try inner catch stop =>
    match stop with
    | .killed _ => throw stop
    | .leaving _ _ | .ended => pure ()

/-- Does something in a process of its own, in which signals are not handled as they are here. A
signal that ends the script ends it all the same. -/
def apart (inner : Act Unit) : Act Unit := do
  let before ← get
  modify fun state => { state with traps := state.traps.filter fun known => known.2.isEmpty }
  untilEnd inner
  modify before.resume

/-- Does something in a process of its own, and gives what it writes. -/
def outputOf (inner : Act Unit) : Act (List UInt8) := do
  let number := (← get).kept.length
  modify fun state => { state with kept := state.kept ++ [[]] }
  apart do
    connect 1 (.kept number)
    inner
  return (← get).kept.getD number []

/-- Does something while the channels may lead elsewhere, and the input as well unless it
`keepsInput`. -/
def redirecting (keepsInput : Bool) (inner : Act Unit) : Act Unit := do
  let before ← get
  try inner finally
    modify fun state : State =>
      { state with
        channels := before.channels
        input := if keepsInput then state.input else before.input }

/-- Does something that may leave a loop, and tells whether the loop goes on. -/
def inLoop (inner : Act Unit) : Act Bool := do
  try
    inner
    return true
  catch stop =>
    match stop with
    | .leaving (levels + 2) again => throw (.leaving (levels + 1) again)
    | .leaving _ again => return again
    | .ended | .killed _ => throw stop

end Act

end DesktopAgent.Rehearsal.Shell
