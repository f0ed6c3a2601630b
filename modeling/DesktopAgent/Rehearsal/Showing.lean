import DesktopAgent.Text.Numeral
import DesktopAgent.Text.Octets

/-!
Showing bytes line by line.

Bytes are shown as they are, or so that lines are numbered, empty lines after an empty one are left
out, and the ends of lines, tabs or other bytes that do not show are written with visible
characters. What is shown may come in several parts, and a line may go on from one part to the next.
-/

namespace DesktopAgent.Rehearsal

open DesktopAgent.Text

/-- How bytes are shown: whether lines are numbered, and empty ones too; whether of empty lines in a
row only one is kept; and whether ends of lines, tabs and other bytes are made visible. -/
structure Showing where
  numbers : Bool
  numbersEmpty : Bool
  squeezes : Bool
  marksEnds : Bool
  marksTabs : Bool
  marksOthers : Bool
deriving DecidableEq, Repr

/-- The manner that options ask for. -/
def Showing.ofOptions (options : List Char) : Showing where
  numbers := options.any ['n', 'b'].contains
  numbersEmpty := options.contains 'n' && !options.contains 'b'
  squeezes := options.contains 's'
  marksEnds := options.any ['e', 'E', 'A'].contains
  marksTabs := options.any ['t', 'T', 'A'].contains
  marksOthers := options.any ['e', 't', 'v', 'A'].contains

/-- Where in what is shown a part ends: how many ends of lines have just come, none within a line;
the number of the last numbered line; and whether a carriage return waits for the end of its line.
-/
structure ShownPlace where
  ends : Option Nat
  number : Nat
  hasReturn : Bool
deriving DecidableEq, Repr

namespace ShownPlace

def start : ShownPlace := ⟨some 0, 0, false⟩

def pending (place : ShownPlace) : List UInt8 := if place.hasReturn then [13] else []

/-- The number of the next line, and the place after it. -/
def nextNumber (place : ShownPlace) : List UInt8 × ShownPlace :=
  let digits := Numeral.ofNat (place.number + 1)
  let text := List.replicate (6 - digits.length) ' ' ++ digits ++ ['\t']
  (Octets.bytes (String.ofList text), { place with number := place.number + 1 })

end ShownPlace

/-- A byte without its highest bit that is made visible. -/
def caretText (byte : Nat) : List Nat :=
  if byte < 32 then [94, byte + 64] else if byte = 127 then [94, 63] else [byte]

/-- A byte within a line. -/
def Showing.byteText (manner : Showing) (byte : UInt8) : List UInt8 :=
  let code := byte.toNat
  if code = 9 then if manner.marksTabs then [94, 73] else [9]
  else if !manner.marksOthers then [byte]
  else ((if 128 ≤ code then [77, 45] else []) ++ caretText (code % 128)).map UInt8.ofNat

namespace Showing

def showEnd (manner : Showing) (place : ShownPlace) : List UInt8 × ShownPlace :=
  let ends :=
    match place.ends with
    | some count => count + 1
    | none => 0
  if 2 ≤ ends && manner.squeezes then ([], { place with ends := some 2 })
  else
    let (number, numbered) :=
      if 0 < ends && manner.numbersEmpty then place.nextNumber else ([], place)
    let mark : List UInt8 :=
      if manner.marksEnds then (if place.hasReturn then [94, 77] else []) ++ [36]
      else place.pending
    (number ++ mark ++ [10], { numbered with ends := some (min ends 2), hasReturn := false })

def showByte (manner : Showing) (place : ShownPlace) (byte : UInt8) : List UInt8 × ShownPlace :=
  let (number, numbered) :=
    if place.ends.isSome && manner.numbers then place.nextNumber else ([], place)
  let isReturn := byte = 13 && manner.marksEnds && !manner.marksOthers
  (place.pending ++ number ++ (if isReturn then [] else manner.byteText byte),
    { numbered with ends := none, hasReturn := isReturn })

def showAll (manner : Showing) (place : ShownPlace) : List UInt8 → List UInt8 × ShownPlace
  | [] => ([], place)
  | byte :: rest =>
      let (shown, place) :=
        if byte = 10 then manner.showEnd place else manner.showByte place byte
      let (later, place) := manner.showAll place rest
      (shown ++ later, place)

end Showing

end DesktopAgent.Rehearsal
