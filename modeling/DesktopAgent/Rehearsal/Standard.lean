import DesktopAgent.Agent.Config
import DesktopAgent.Rehearsal.Format
import DesktopAgent.Rehearsal.Options
import DesktopAgent.Rehearsal.Paths
import DesktopAgent.Rehearsal.Showing
import DesktopAgent.Text.Octets

/-!
The standard programs that a command in a rehearsal may name.

They see the variables of their environment, the disk of the machine and their input, and leave what
they wrote and a status.
-/

namespace DesktopAgent.Rehearsal

open DesktopAgent.Display
open DesktopAgent.Text

def writeLine (style : Option EscapeStyle) (endsLine : Bool) (arguments : List String) : Finish :=
  let text := " ".intercalate arguments
  match style with
  | none => .wrote (Octets.bytes text ++ if endsLine then [10] else [])
  | some style =>
      let (bytes, ending) := expandEscapes style text.toList
      .wrote (bytes ++ if endsLine && ending = .usual then [10] else [])

/-- Whether an argument is a group of options of the program `echo`. -/
def isEchoOption (argument : String) : Bool :=
  match argument.toList with
  | '-' :: letters => !letters.isEmpty && letters.all ['n', 'e', 'E'].contains
  | _ => false

def echo (arguments : List String) : Finish :=
  let options := (arguments.takeWhile isEchoOption).flatMap fun option => option.toList.drop 1
  let expands := (options.filter (· ≠ 'n')).getLast? = some 'e'
  writeLine (if expands then some ⟨false, true, false⟩ else none) (!options.contains 'n')
    (arguments.dropWhile isEchoOption)

/-- How the program `printf` writes formats. Messages begin with the name by which it is called. -/
def printfStyle (called : String) : FormatStyle where
  escapes := ⟨true, true, true⟩
  knowsQuote := true
  knowsStop := true
  isStrict := true
  exactness := .extended
  unknown text := called ++ ": " ++ text ++ ": invalid conversion specification"
  unfinished text := called ++ ": " ++ text ++ ": invalid conversion specification"
  noNumber argument := called ++ ": " ++ quotedName argument ++ ": expected a numeric value"
  partialNumber argument :=
    called ++ ": " ++ quotedName argument ++ ": value not completely converted"
  outOfRange argument := called ++ ": " ++ quotedName argument ++ ": Numerical result out of range"
  afterCharacter rest :=
    some (called ++ ": warning: " ++ rest ++
      ": character(s) following character constant have been ignored")
  opening := called ++ ": "
  excess argument :=
    some (called ++ ": warning: ignoring excess arguments, starting with " ++ quotedName argument)

/-- Where a program says that more is told of it. -/
def helpHint (called : String) : String := "\nTry '" ++ called ++ " --help' for more information."

def printFormatted (called : String) (arguments : List String) : Finish :=
  match if arguments.head? = some "--" then arguments.tail else arguments with
  | [] => .complained (called ++ ": missing operand" ++ helpHint called) 1
  | format :: arguments => (writeFormat (printfStyle called) format arguments).complaintsFirst

/-- Reads the options of a program and goes on with them and the other arguments. -/
def withOptions (table : OptionTable) (called : String) (mistakeStatus : Nat)
    (arguments : List String) (goOn : List Char → List String → Finish) : Finish :=
  match table.read arguments with
  | .ok (options, operands) => goOn options operands
  | .error problem =>
      .complained (called ++ ": " ++ problem.message ++ helpHint called) mistakeStatus

/-- What a program sees: the variables of its environment, the disk, and what its input has. -/
structure Surroundings where
  environment : Environment
  disk : Disk
  input : List UInt8

/-- What is said of a path that leads to nothing readable, if it does. -/
def unreadable? : Place → Option String
  | .directory => some "Is a directory"
  | .absent | .missing => some "No such file or directory"
  | .throughFile => some "Not a directory"
  | .nameTooLong => some "File name too long"
  | .program _ | .data _ => none

def Place.bytes : Place → List UInt8
  | .data bytes => bytes
  | _ => []

def catOptions : OptionTable where
  letters := ['b', 'e', 'n', 's', 't', 'u', 'v', 'A', 'E', 'T']
  names :=
    [("number-nonblank", 'b'), ("number", 'n'), ("squeeze-blank", 's'), ("show-nonprinting", 'v'),
      ("show-ends", 'E'), ("show-tabs", 'T'), ("show-all", 'A')]
  endsEarly := false

/-- Whether a program reads its input under a name. -/
def namesInput (name : String) : Bool := name = "-" || name = "/dev/stdin"

/-- Whether names have a program read its input. -/
def readsInput (names : List String) : Bool := names.isEmpty || names.any namesInput

/-- What the program `cat` reads under the name that has a place among others. What comes in at a
second mention of the input has been read already. -/
def readPart (surroundings : Surroundings) (called : String) (before : List String)
    (name : String) : Except String (List UInt8) :=
  if namesInput name then .ok (if before.any namesInput then [] else surroundings.input)
  else
    let place := surroundings.disk.place (Octets.decode name)
    match unreadable? place with
    | some reason => .error (called ++ ": " ++ shellName name ++ ": " ++ reason)
    | none => .ok place.bytes

def concatenate (surroundings : Surroundings) (called : String) (arguments : List String) :
    Finish :=
  withOptions catOptions called 1 arguments fun options names =>
    let manner := Showing.ofOptions options
    let names := if names.isEmpty then ["-"] else names
    let (done, place) := names.zipIdx.foldl (fun (done, place) (name, index) =>
      match readPart surroundings called (names.take index) name with
      | .ok bytes =>
          let (shown, place) := manner.showAll place bytes
          (done.followedBy (.wrote shown), place)
      | .error message => (done.followedBy (.complained message 1), place))
      (Finish.silent 0, ShownPlace.start)
    done.followedBy (.wrote place.pending)

def printVariables (surroundings : Surroundings) (called : String) (arguments : List String) :
    Finish :=
  withOptions ⟨['0'], [("null", '0')], true⟩ called 2 arguments fun options names =>
    let ending := if options.isEmpty then "\n" else "\x00"
    names.foldl (fun done name => done.followedBy
      (match surroundings.environment name with
      | some value => .wrote (Octets.bytes (value ++ ending))
      | none => .silent 1))
      (.silent 0)

def unitSeconds? : List Char → Option Nat
  | [] | ['s'] => some 1
  | ['m'] => some 60
  | ['h'] => some 3600
  | ['d'] => some 86400
  | _ => none

/-- The milliseconds of a duration, which may have a unit; one without an end counts as a day. -/
def milliseconds? (duration : String) : Option Nat := do
  let text ← readFloating? .double duration.toList
  let unit ← unitSeconds? text.rest
  match text.number with
  | ⟨isNegative, .finite mantissa exponent⟩ =>
      if isNegative && mantissa ≠ 0 then none
      else some (1000 * unit * mantissa * Nat.pow 2 exponent.toNat / Nat.pow 2 (-exponent).toNat)
  | ⟨false, .infinite⟩ => some 86400000
  | _ => none

def waitAWhile (called : String) (arguments : List String) : Finish :=
  withOptions ⟨[], [], true⟩ called 1 arguments fun _ durations =>
    let wrong := durations.filter fun duration => (milliseconds? duration).isNone
    let complaint := "\n".intercalate (wrong.map fun duration =>
      called ++ ": invalid time interval " ++ quotedName duration)
    if durations.isEmpty then .complained (called ++ ": missing operand" ++ helpHint called) 1
    else if !wrong.isEmpty then .complained (complaint ++ helpHint called) 1
    else { Finish.silent 0 with duration := (durations.filterMap milliseconds?).foldl (· + ·) 0 }

def standardProgram? (surroundings : Surroundings) (name called : String)
    (arguments : List String) : Option Finish :=
  match name with
  | "true" => some (.silent 0)
  | "false" => some (.silent 1)
  | "echo" => some (echo arguments)
  | "printf" => some (printFormatted called arguments)
  | "cat" => some (concatenate surroundings called arguments)
  | "printenv" => some (printVariables surroundings called arguments)
  | "sleep" => some (waitAWhile called arguments)
  | _ => none

end DesktopAgent.Rehearsal
