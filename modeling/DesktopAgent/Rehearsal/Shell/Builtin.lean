import DesktopAgent.Rehearsal.Shell.State

/-!
The commands that a shell has itself.

A command tells its name in what it says. A mistake in a command by which scripts end ends the
script; a mistake in another one is its status.
-/

namespace DesktopAgent.Rehearsal.Shell

open DesktopAgent.Text

def echoLine (arguments : List String) : Finish :=
  match arguments with
  | "-n" :: rest => writeLine (some ⟨false, false, false⟩) false rest
  | _ => writeLine (some ⟨false, false, false⟩) true arguments

/-- How a shell writes formats, whose messages begin in the same way. -/
def shellFormatStyle (opening : String) : FormatStyle where
  escapes := ⟨true, false, false⟩
  knowsQuote := false
  knowsStop := false
  isStrict := false
  exactness := .double
  unknown text := opening ++ text ++ ": invalid directive"
  unfinished _ := opening ++ "missing format character"
  noNumber argument := opening ++ argument ++ ": expected numeric value"
  partialNumber argument := opening ++ argument ++ ": not completely converted"
  outOfRange argument := opening ++ argument ++ ": Numerical result out of range"
  afterCharacter _ := none
  opening := opening
  excess _ := none

def printValues (format : String) (values : List String) : Act Unit := do
  let state ← get
  let style := shellFormatStyle (state.name ++ ": " ++ Numeral.text state.line ++ ": printf: ")
  Act.deliver (writeFormat style format values).complaintsFirst
  let isWrong := (formatPieces style format.toList).any fun piece : FormatPiece =>
    match piece with
    | .unknown _ | .unfinished _ => true
    | _ => false
  if isWrong then Act.setStatus 2

def conditionNumber (text : String) : Except String Int :=
  (Numeral.toInt? text.toList).elim (.error ("Illegal number: " ++ text)) .ok

/-- Whether an operator holds of what a path leads to. -/
def placeHolds (operator : String) (place : Place) : Bool :=
  match operator, place with
  | "-d", .directory | "-x", .directory | "-x", .program _ => true
  | "-s", .data bytes => !bytes.isEmpty
  | "-s", .directory | "-s", .program _ => true
  | "-f", .data _ | "-f", .program _ => true
  | "-e", place | "-r", place | "-w", place =>
      match place with
      | .directory | .data _ | .program _ => true
      | .absent | .missing | .throughFile | .nameTooLong => false
  | _, _ => false

/-- Whether an operator holds between two words, if there is such an operator. -/
def comparison? (left operator right : String) : Option (Except String Bool) :=
  let numbers (holds : Int → Int → Bool) : Except String Bool := do
    return holds (← conditionNumber left) (← conditionNumber right)
  match operator with
  | "=" => some (.ok (left = right))
  | "!=" => some (.ok (left ≠ right))
  | "-eq" => some (numbers fun left right => left = right)
  | "-ne" => some (numbers fun left right => left ≠ right)
  | "-lt" => some (numbers fun left right => left < right)
  | "-le" => some (numbers fun left right => left ≤ right)
  | "-gt" => some (numbers fun left right => right < left)
  | "-ge" => some (numbers fun left right => right ≤ left)
  | _ => none

def conditionHolds (disk : Disk) : List String → Except String Bool
  | [] => .ok false
  | [word] => .ok (!word.isEmpty)
  | ["!", word] => .ok word.isEmpty
  | ["-n", word] => .ok (!word.isEmpty)
  | ["-z", word] => .ok word.isEmpty
  | [operator, word] =>
      if ["-d", "-e", "-f", "-r", "-s", "-w", "-x"].contains operator then
        .ok (placeHolds operator (disk.place (Octets.decode word)))
      else .error (operator ++ ": unexpected operator")
  | left :: operator :: right :: rest =>
      match comparison? left operator right, rest with
      | some holds, [] => holds
      | some holds, "-a" :: others => do return (← holds) && (← conditionHolds disk others)
      | some holds, "-o" :: others => do return (← holds) || (← conditionHolds disk others)
      | some _, word :: _ => .error (word ++ ": unexpected operator")
      | none, others =>
          if left = "!" then do return !(← conditionHolds disk (operator :: right :: others))
          else .error (operator ++ ": unexpected operator")
termination_by words => words.length

/-- Receives a signal, which ends the script unless it is handled or does nothing. -/
def receive (signal : Nat) : Act Unit := do
  match (← get).traps.lookup signal with
  | some action =>
      if isFinal signal then throw (.killed signal)
      else if !action.isEmpty then
        modify fun state => { state with pending := state.pending ++ [signal] }
  | none => if !isHarmless signal then throw (.killed signal)

/-- Sends a signal to processes, of which a script knows itself. -/
def sendSignal (complain : String → Act Unit) (signal : Nat) (processes : List String) :
    Act Unit := do
  for text in processes do
    if text = Numeral.text (← get).process then receive signal
    else do
      complain (if (Numeral.toNat? text.toList).isSome then "No such process\n"
        else "Illegal number: " ++ text)
      Act.setStatus (if (Numeral.toNat? text.toList).isSome then 1 else 2)

def kill (complain : String → Act Unit) (arguments : List String) : Act Unit := do
  match arguments with
  | ["-l", text] =>
      match signalOf? text with
      | some signal => Act.write 1 (Octets.bytes (signalNames.getD signal "" ++ "\n"))
      | none => do
          complain ("invalid signal number or exit status: " ++ text)
          Act.setStatus 2
  | "-s" :: name :: processes => sendSignal complain ((signalOf? name).getD 0) processes
  | first :: others =>
      match if first.startsWith "-" then signalOf? (String.ofList first.toList.tail) else none with
      | some signal => sendSignal complain signal others
      | none => sendSignal complain 15 arguments
  | [] => Act.setStatus 2

/-- Sets what is done when signals come. A hyphen stands for what is done usually. -/
def setTraps (arguments : List String) : Act Unit := do
  match arguments with
  | [] => pure ()
  | action :: names =>
      for name in names do
        match signalOf? name with
        | some signal =>
            modify fun state =>
              let others := state.traps.filter fun known => known.1 ≠ signal
              let own := if action = "-" then [] else [(signal, action)]
              { state with traps := own ++ others }
        | none => do
            Act.write 2 (Octets.bytes ("trap: " ++ name ++ ": bad trap\n"))
            Act.setStatus 1

/-- The name and the value of an argument that sets something. -/
def setting? (argument : String) : Option (String × String) :=
  let (name, rest) := argument.toList.span (· ≠ '=')
  rest.head?.map fun _ => (String.ofList name, String.ofList rest.tail)

def setAliases (complain : String → Act Unit) (arguments : List String) : Act Unit := do
  for argument in arguments do
    match setting? argument with
    | some setting => modify fun state => { state with aliases := setting :: state.aliases }
    | none => do
        complain (argument ++ " not found")
        Act.setStatus 1

def exportAll (arguments : List String) : Act Unit := do
  for argument in arguments do
    match setting? argument with
    | some (name, value) => modify fun state => (state.set name value).share name
    | none => modify (State.share argument)

def unsetAll (names : List String) : Act Unit :=
  modify fun state =>
    { state with bindings := state.bindings.filter fun known => !names.contains known.1 }

def countOf (arguments : List String) (usual : Nat) : Act Nat := do
  match arguments with
  | [] => return usual
  | text :: _ =>
      match Numeral.toNat? text.toList with
      | some count => return count
      | none => Act.fail ("Illegal number: " ++ text)

/-- The commands by whose mistakes a script ends. -/
def specialNames : List String :=
  [":", "break", "continue", "exit", "export", "shift", "trap", "unset"]

/-- What a command of the shell does, if there is one with this name. -/
def builtin? (name : String) (arguments : List String) : Option (Act Unit) :=
  let complain (message : String) : Act Unit := Act.complain (name ++ ": " ++ message)
  let check (words : List String) : Act Unit := do
    match conditionHolds (← get).disk words with
    | .ok holds => Act.setStatus (if holds then 0 else 1)
    | .error reason => do
        complain reason
        Act.setStatus 2
  match name with
  | ":" | "true" => some (pure ())
  | "false" => some (Act.setStatus 1)
  | "echo" => some (Act.deliver (echoLine arguments))
  | "printf" => some <|
      match arguments with
      | [] => do
          complain "usage: printf format [arg ...]"
          Act.setStatus 2
      | format :: values => printValues format values
  | "test" => some (check arguments)
  | "[" => some <|
      if arguments.getLast? = some "]" then check arguments.dropLast
      else do
        complain "missing ]"
        Act.setStatus 2
  | "kill" => some (kill complain arguments)
  | "trap" => some (setTraps arguments)
  | "alias" => some (setAliases complain arguments)
  | "export" => some (exportAll arguments)
  | "unset" => some (unsetAll arguments)
  | "shift" => some do
      let count ← countOf arguments 1
      if (← get).parameters.length < count then Act.fail "shift: can't shift that many"
      modify fun state => { state with parameters := state.parameters.drop count }
  | "break" => some do throw (.leaving (← countOf arguments 1) false)
  | "continue" => some do throw (.leaving (← countOf arguments 1) true)
  | _ => none

end DesktopAgent.Rehearsal.Shell
