import DesktopAgent.Rehearsal.Shell.Builtin
import DesktopAgent.Rehearsal.Shell.Expansion

/-!
Running shell scripts.

Running is bounded in depth: a script that goes deeper than that, or round a loop for too long, is
ended. Commands of a pipeline run one after the other, each with what the one before it wrote as its
input.
-/

namespace DesktopAgent.Rehearsal.Shell

open DesktopAgent.Text

section

variable (run : Command → Act Unit)

/-- Runs lines, so many of them at most. Each line is run before the next one is read. -/
def runLines : (count : Nat) → Reader → Act Unit
  | 0, _ => Act.exhausted
  | count + 1, reader => do
      match readLine { reader with aliases := (← get).aliases } with
      | .error problem => do
          modify fun state => { state with line := problem.line }
          Act.fail ("Syntax error: " ++ problem.reason)
      | .ok (none, _) => pure ()
      | .ok (some command, rest) => do
          let _ ← Act.inLoop (run command)
          runLines count rest

def runScript (script : String) : Act Unit := runLines run stepLimit ⟨script.toList, 1, []⟩

/-- Does what is to be done when a signal comes, after which the status is what it was before. -/
def handle (signal : Nat) : Act Unit := do
  let state ← get
  match state.traps.lookup signal with
  | some action => do
      runScript run action
      Act.setStatus state.status
  | none => pure ()

/-- Does what is to be done because of the signals that have come. -/
def handlePending : Act Unit := do
  let signals := (← get).pending
  modify fun state => { state with pending := [] }
  signals.forM (handle run)

def runToEnd (script : String) : Act Unit := do
  Act.untilEnd (runScript run script)
  handle run 0

def runShell (called : String) (arguments : List String) : Act Unit := do
  let begin (name : String) (parameters : List String) (script : String) : Act Unit := do
    modify fun state => { state with name := name, parameters := parameters }
    runToEnd run script
  let refuse (message : String) (status : Nat) : Act Unit := do
    Act.write 2 (Octets.bytes (called ++ ": 0: " ++ message ++ "\n"))
    Act.setStatus status
  match arguments with
  | "-c" :: script :: rest => begin (rest.headD called) rest.tail script
  | ["-c"] => refuse "-c requires an argument" 2
  | [] => do begin called [] (Octets.ofBytes (← get).input)
  | path :: parameters =>
      match (← get).disk.place (Octets.decode path) with
      | .data bytes => begin path parameters (Octets.ofBytes bytes)
      | _ => refuse ("cannot open " ++ path ++ ": No such file") 2

/-- Runs another shell in a process of its own. -/
def runInner (called : String) (arguments : List String) : Act Unit := do
  let outer ← get
  let inner := State.start outer.disk outer.environment (outer.process + 1) called
  set { inner with
    kept := outer.kept
    time := outer.time
    input := outer.input
    channels := outer.channels }
  try Act.untilEnd (runShell run called arguments) catch stop =>
    match stop with
    | .killed signal => do
        let notice := signalNotices.getD signal ""
        if !notice.isEmpty then Act.write 2 (Octets.bytes (notice ++ "\n"))
        Act.setStatus (128 + signal)
    | .leaving _ _ | .ended => throw stop
  modify outer.resume

def callProgram (called : String) (arguments : List String) : Act Unit := do
  let state ← get
  let refuse (reason : String) (status : Nat) : Act Unit := do
    Act.complain (called ++ ": " ++ reason)
    Act.setStatus status
  match state.disk.commandPlace (Octets.decode called) with
  | .program "sh" => runInner run called arguments
  | .program name =>
      let environment (name : String) : Option String := state.environment.lookup name
      let surroundings : Surroundings := ⟨environment, state.disk, state.input⟩
      Act.deliver ((standardProgram? surroundings name called arguments).getD (.silent 0))
      let names := arguments.filter fun argument => argument = "-" || !argument.startsWith "-"
      if name = "cat" && readsInput names then
        modify fun state : State => { state with input := [] }
  | .directory | .data _ =>
      if called.toList.contains '/' then refuse "Permission denied" 126
      else refuse "not found" 127
  | .absent | .missing | .throughFile | .nameTooLong => refuse "not found" 127

def call (name : String) (arguments : List String) : Act Unit := do
  if name = "exit" then do Act.leave (← countOf arguments (← get).status)
  else
    Act.setStatus 0
    (builtin? name arguments).getD (callProgram run name arguments)

end

section

variable (expand : Bool → Word → Act (List Atom))

def expandText (word : Word) : Act String := return String.ofList (textOf (← expand false word))

def expandFields (words : List Word) : Act (List String) :=
  return (← words.mapM fun word => return fieldsOf (← expand true word)).flatten

/-- Opens a file to which a channel leads from then on, and tells whether that went well. -/
def openFile (channel : Nat) (operator name : String) : Act Bool := do
  let disk := (← get).disk
  let isReading := operator = "<"
  let opening := if isReading then "cannot open " else "cannot create "
  let refuse (reason : String) : Act Bool := do
    Act.complain (opening ++ name ++ ": " ++ reason)
    return false
  let write (path : String) : Act Bool := do
    let isNew := operator = ">" || (disk.files.read? path).isNone
    let files := if isNew then disk.files.write path [] else disk.files
    modify fun state => { state with disk := { disk with files := files } }
    Act.connect channel (.file path)
    return true
  let (path, place) := disk.locate (Octets.decode name)
  match place with
  | .data bytes =>
      if isReading then do
        modify fun state : State => { state with input := bytes }
        return true
      else if path.startsWith "/dev/" then do
        Act.connect channel .nothing
        return true
      else write path
  | .absent => if isReading then refuse "No such file" else write path
  | .directory => refuse "Is a directory"
  | .program _ => refuse "Text file busy"
  | .nameTooLong => refuse "File name too long"
  | .missing | .throughFile =>
      refuse (if isReading then "No such file" else "Directory nonexistent")

/-- Does redirections one after the other up to one that cannot be done, and tells whether all went
well. -/
def redirectAll : List Redirect → Act Bool
  | [] => return true
  | .toward channel operator target :: others => do
      let name ← expandText expand target
      let isDone ←
        if operator = ">&" then do
          match (Numeral.toNat? name.toList).bind ((← get).channels.lookup ·) with
          | some target => do
              Act.connect channel target
              pure true
          | none => do
              Act.complain (name ++ ": Bad file descriptor")
              pure false
        else openFile channel operator name
      if isDone then redirectAll others else return false

def assignAll (settings : List (String × Word)) (isShared : Bool) : Act Unit := do
  for (name, word) in settings do
    let value ← expandText expand word
    modify fun state =>
      let assigned := state.set name value
      if isShared then assigned.share name else assigned

/-- Runs a command without commands inside, where `call` runs what its fields call. -/
def runSimple (call : String → List String → Act Unit) (settings : List (String × Word))
    (words : List Word) (redirects : List Redirect) : Act Unit := do
  modify fun state : State => { state with outputStatus := 0 }
  let fields ← expandFields expand words
  let before ← get
  Act.redirecting (!redirects.any Redirect.leadsInput) do
    let isOpen ← redirectAll expand redirects
    match fields, isOpen with
    | [], true => do
        assignAll expand settings false
        Act.setStatus (← get).outputStatus
    | name :: arguments, true => do
        assignAll expand settings true
        call name arguments
        if !settings.isEmpty && !specialNames.contains name then
          modify fun state : State =>
            { state with bindings := before.bindings, exported := before.exported }
    | _, false => if fields.head?.any specialNames.contains then Act.leave 2 else Act.setStatus 2

/-- Runs the rounds of a loop while its condition is `goal`, so many of them at most. -/
def runRounds (goal : Bool) (condition body : Act Unit) : (rounds : Nat) → (status : Nat) → Act Unit
  | 0, _ => Act.exhausted
  | rounds + 1, status => do
      condition
      if ((← get).status = 0) = goal then
        if ← Act.inLoop body then runRounds goal condition body rounds (← get).status
      else Act.setStatus status

def runEach (name : String) (body : Act Unit) : List String → Act Unit
  | [] => pure ()
  | value :: others => do
      modify (State.set name value)
      if ← Act.inLoop body then runEach name body others

/-- The commands of the first arm of a selection of which a pattern fits. -/
def chooseArm (subject : List Char) : List (List Word × Command) → Act Command
  | [] => return .nothing
  | (patterns, body) :: others => do
      let fit ← patterns.mapM fun word => return fits (patternOf (← expand false word)) subject
      if fit.any id then return body else chooseArm subject others

end

/-- How many rounds a loop has at most. -/
def roundLimit : Nat := 10000

/-- Runs a command to a depth of `fuel`, and then does what is to be done because of signals. -/
def execute : (fuel : Nat) → Command → Act Unit
  | 0, _ => Act.exhausted
  | fuel + 1, command => do
      let run := execute fuel
      let expand := wordAtoms run fuel
      match command with
      | .nothing => pure ()
      | .simple line settings words redirects => do
          modify fun state : State => { state with line := line }
          runSimple expand (call run) settings words redirects
      | .redirected redirects body =>
          Act.redirecting (!redirects.any Redirect.leadsInput) do
            if ← redirectAll expand redirects then run body else Act.setStatus 2
      | .sequence first second => do
          run first
          run second
      | .both first second => do
          run first
          if (← get).status = 0 then run second
      | .either first second => do
          run first
          if (← get).status ≠ 0 then run second
      | .pipe first others => do
          let bytes ← Act.outputOf (run first)
          Act.apart do
            modify fun state : State => { state with input := bytes }
            run others
      | .negated body => do
          run body
          Act.setStatus (if (← get).status = 0 then 1 else 0)
      | .apart body => Act.apart (run body)
      | .choice condition body otherwise => do
          run condition
          if (← get).status = 0 then run body
          else if otherwise.isNothing then Act.setStatus 0
          else run otherwise
      | .loop goal condition body => runRounds goal (run condition) (run body) roundLimit 0
      | .each name words body => do
          let values ← expandFields expand words
          Act.setStatus 0
          runEach name (run body) values
      | .select subject arms => do
          let text ← expandText expand subject
          let body ← chooseArm expand text.toList arms
          if body.isNothing then Act.setStatus 0 else run body
      handlePending run

/-- How deep scripts may go. -/
def depthLimit : Nat := 20000

/-- What the program `sh` leaves that is called by a name or a path with arguments, and the disk
after it. What it reads has nothing. -/
def runProgram (disk : Disk) (bindings : List (String × String)) (process : Nat) (called : String)
    (arguments : List String) : Finish × Disk :=
  let begun : State :=
    { State.start disk bindings process called with
      kept := [[], []]
      channels := [(1, .kept 0), (2, .kept 1)] }
  let (outcome, state) := (runShell (execute depthLimit) called arguments).run begun
  let status :=
    match outcome with
    | .error (.killed signal) => 128 + signal
    | _ => state.status
  let written := [(1, state.kept.getD 0 []), (2, state.kept.getD 1 [])]
  (⟨written, status, state.time⟩, state.disk)

end DesktopAgent.Rehearsal.Shell
