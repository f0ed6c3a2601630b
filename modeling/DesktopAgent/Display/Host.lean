import DesktopAgent.Display.Config
import DesktopAgent.Failure

/-!
The machine on which a display runs: its processes, its files, its clock and its programs.

Programs may do anything with the part of the machine that is theirs, write files and end, but they
launch nothing here. A process that is launched stays in its group until it ends by itself or the
group is signalled. What has become of a process is asked of the system, which need not tell.
-/

namespace DesktopAgent.Display

inductive Part where
  | framebuffer
  | windowManager
  | browser
deriving DecidableEq, Repr

/-- A command with the display that its environment names. -/
structure Invocation where
  argv : Argv
  display : Option String
deriving DecidableEq, Repr

/-- A live process. -/
structure Process where
  id : Nat
  group : Nat
  part : Part
  invocation : Invocation
deriving DecidableEq, Repr

/-- The files of the machine, each path once. -/
abbrev Files := List (String × List UInt8)

namespace Files

def read? (files : Files) (path : String) : Option (List UInt8) :=
  (files.find? fun file => file.1 = path).map (·.2)

def remove (files : Files) (path : String) : Files :=
  files.filter fun file => file.1 ≠ path

def write (files : Files) (path : String) (bytes : List UInt8) : Files :=
  (path, bytes) :: files.remove path

@[simp]
theorem read?_write (files : Files) (path : String) (bytes : List UInt8) :
    (files.write path bytes).read? path = some bytes := by
  simp [read?, write]

@[simp]
theorem read?_remove (files : Files) (path : String) :
    (files.remove path).read? path = none := by
  simp [read?, remove]

theorem read?_remove_of_ne (files : Files) {path other : String} (different : other ≠ path) :
    (files.remove path).read? other = files.read? other := by
  induction files with
  | nil => rfl
  | cons file rest inductionHypothesis =>
      simp only [read?, remove] at inductionHypothesis ⊢
      by_cases isPath : file.1 = path
      · have notOther : file.1 ≠ other := fun equality => different (equality ▸ isPath)
        simpa [List.filter, isPath, List.find?, notOther, Ne.symm different]
          using inductionHypothesis
      · by_cases isOther : file.1 = other
        · simp [List.filter, List.find?, isOther, different]
        · simpa [List.filter, isPath, List.find?, isOther] using inductionHypothesis

theorem read?_write_of_ne (files : Files) {path other : String} (bytes : List UInt8)
    (different : other ≠ path) : (files.write path bytes).read? other = files.read? other := by
  rw [← read?_remove_of_ne files different]
  simp [read?, write, Ne.symm different]

end Files

/-- What a command that ran to its end leaves to be read. -/
structure Output where
  stdout : List UInt8
  stderr : List UInt8
  success : Bool
deriving DecidableEq, Repr

/-- What a command does: its output, the state of the programs after it, the files after it, and
which launched processes ended meanwhile. -/
structure Effect (τ : Type) where
  output : Output
  scene : τ
  files : Files
  ended : List Nat

/-- A machine: its live processes, its files, what was launched and what was run, the next process
number, what its clock showed last, and the state of its programs. -/
structure Host (τ : Type) where
  processes : List Process
  files : Files
  launched : List Process
  ran : List Invocation
  nextProcess : Nat
  clock : Nat
  scene : τ

/-- How a machine behaves: why a program cannot be started and what is left of the attempt, what a
command does, what happens during a pause, and how much has been added to the pauses when the clock
is read. Of some processes the system does not tell whether they have ended (`waitpid` fails), and
not all permit a signal (`kill` fails). -/
structure Programs (τ : Type) where
  refusal : Argv → Host τ → Option (String × τ)
  effect : Invocation → Host τ → Effect τ
  idle : Span → Host τ → τ × List Nat
  delay : Host τ → Span
  untold : Nat → Host τ → Bool
  permits : Nat → Host τ → Bool

inductive SpawnProblem where
  | emptyCommand
  | refused (program reason : String)
deriving DecidableEq, Repr

def SpawnProblem.message : SpawnProblem → String
  | .emptyCommand => "empty command"
  | .refused program reason => program ++ ": " ++ reason

def SpawnProblem.failure (problem : SpawnProblem) : Failure := .spawn problem.message

namespace Host

variable {τ : Type}

def fresh (scene : τ) : Host τ := ⟨[], [], [], [], 1, 0, scene⟩

/-- What is said of a command with a zero byte, which no machine can start. -/
def zeroByteReason : String := "nul byte found in provided data"

def hasZeroByte (text : String) : Bool := text.toList.contains '\x00'

def attempt (programs : Programs τ) (invocation : Invocation) (host : Host τ) :
    Except SpawnProblem Unit × Host τ :=
  match invocation.argv with
  | [] => (.error .emptyCommand, host)
  | program :: _ =>
      if invocation.argv.any hasZeroByte || invocation.display.any hasZeroByte then
        (.error (.refused program zeroByteReason), host)
      else
        match programs.refusal invocation.argv host with
        | some (reason, scene) => (.error (.refused program reason), { host with scene := scene })
        | none => (.ok (), host)

@[simp]
theorem clock_attempt (programs : Programs τ) (invocation : Invocation) (host : Host τ) :
    (host.attempt programs invocation).2.clock = host.clock := by
  unfold attempt
  cases invocation.argv with
  | nil => rfl
  | cons program arguments =>
      dsimp only
      split
      · rfl
      · cases programs.refusal (program :: arguments) host <;> rfl

def reap (ended : List Nat) (processes : List Process) : List Process :=
  processes.filter fun process => !ended.contains process.id

def isAlive (host : Host τ) (id : Nat) : Bool :=
  host.processes.any fun process => process.id = id

/-- Whether a child has ended, where the system tells. -/
def hasEnded? (programs : Programs τ) (id : Nat) (host : Host τ) : Option Bool :=
  if programs.untold id host then none else some !(host.isAlive id)

/-- Whether signal 0, which does nothing, can be sent to a process. -/
def takesSignal (programs : Programs τ) (id : Nat) (host : Host τ) : Bool :=
  host.isAlive id && programs.permits id host

/-- Launches a process into a group, or into a group of its own, and gives its number. -/
def launch (programs : Programs τ) (part : Part) (group : Option Nat) (invocation : Invocation)
    (host : Host τ) : Except SpawnProblem Nat × Host τ :=
  match attempt programs invocation host with
  | (.error problem, host) => (.error problem, host)
  | (.ok (), host) =>
      let id := host.nextProcess
      let process : Process := ⟨id, group.getD id, part, invocation⟩
      (.ok id, { host with
        processes := host.processes ++ [process]
        launched := host.launched ++ [process]
        nextProcess := id + 1 })

def kill (id : Nat) (host : Host τ) : Host τ :=
  { host with processes := reap [id] host.processes }

def killGroup (group : Nat) (host : Host τ) : Host τ :=
  { host with processes := host.processes.filter fun process => process.group ≠ group }

@[simp]
theorem isAlive_kill (id : Nat) (host : Host τ) : (host.kill id).isAlive id = false := by
  simp [isAlive, kill, reap]

theorem group_ne_of_mem_killGroup {group : Nat} {host : Host τ} {process : Process}
    (isLeft : process ∈ (host.killGroup group).processes) : process.group ≠ group := by
  simpa [killGroup] using (List.mem_filter.mp isLeft).2

def removeFile (path : String) (host : Host τ) : Host τ :=
  { host with files := host.files.remove path }

def runCommand (programs : Programs τ) (invocation : Invocation) (host : Host τ) :
    Except SpawnProblem Output × Host τ :=
  match attempt programs invocation host with
  | (.error problem, host) => (.error problem, host)
  | (.ok (), host) =>
      let effect := programs.effect invocation host
      (.ok effect.output, { host with
        processes := reap effect.ended host.processes
        files := effect.files
        ran := host.ran ++ [invocation]
        scene := effect.scene })

@[simp]
theorem clock_runCommand (programs : Programs τ) (invocation : Invocation) (host : Host τ) :
    (host.runCommand programs invocation).2.clock = host.clock := by
  have kept := host.clock_attempt programs invocation
  unfold runCommand
  generalize host.attempt programs invocation = attempted at kept
  obtain ⟨_ | _, after⟩ := attempted <;> exact kept

def pause (programs : Programs τ) (span : Span) (host : Host τ) : Host τ :=
  let (scene, ended) := programs.idle span host
  { host with
    processes := reap ended host.processes
    clock := host.clock + span
    scene := scene }

/-- Reads the clock. It shows more than when it was read before. -/
def readClock (programs : Programs τ) (host : Host τ) : Nat × Host τ :=
  let now := host.clock + programs.delay host + 1
  (now, { host with clock := now })

end Host

end DesktopAgent.Display
