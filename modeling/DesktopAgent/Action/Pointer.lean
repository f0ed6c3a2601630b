import DesktopAgent.Text.Blank
import DesktopAgent.Text.Numeral

/-!
Where the pointer is, as the input tool reports it.

The report is a line of fields such as `x:12 y:34 screen:0 window:5`. The last field of each
coordinate counts, and both must be integers of 64 bits.
-/

namespace DesktopAgent.Pointer

open DesktopAgent.Text

/-- What has been read of a report: for each coordinate the value of its last field. -/
structure Position where
  x : Option Int64
  y : Option Int64
deriving DecidableEq, Repr

def readField (position : Position) : List Char → Position
  | 'x' :: ':' :: numeral => { position with x := Numeral.toInt64? numeral }
  | 'y' :: ':' :: numeral => { position with y := Numeral.toInt64? numeral }
  | _ => position

/-- The position that a report states. -/
def position? (report : String) : Option (Int64 × Int64) := do
  let position := (fields report.toList).foldl readField ⟨none, none⟩
  some (← position.x, ← position.y)

end DesktopAgent.Pointer
