import DesktopAgent.Rehearsal.Desktop

/-!
A desktop under rehearsal.

On one machine there are an executor and, apart from it, at most one session of its own. Starting
that session anew gives the old one up as soon as the new one is ready. The starts are numbered, and
their ids are made of the numbers.
-/

namespace DesktopAgent.Rehearsal

open DesktopAgent.Display
open DesktopAgent.Text

/-- A desktop under rehearsal: its executor on its machine, the session apart from it, and how many
starts there were. -/
structure Bench where
  desk : Desk Stage
  apart : Option Session
  starts : Nat

namespace Bench

def fresh (stage : Stage) : Bench := ⟨.idle (.fresh stage), none, 0⟩

def host (bench : Bench) : Host Stage := bench.desk.host

/-- The same desktop with the machine in another state. -/
def onHost (bench : Bench) (host : Host Stage) : Bench :=
  { bench with desk := { bench.desk with host := host } }

/-- The id of the start of a number, which has sixteen characters. -/
def idOf (number : Nat) : String :=
  let digits := Numeral.ofNat number
  String.ofList (List.replicate (16 - digits.length) '_' ++ digits)

/-- Ends the framebuffer that was launched last; false when it has already ended. -/
def killFramebuffer (bench : Bench) : Bool × Bench :=
  match lastFramebuffer? bench.host.launched with
  | some id =>
      if bench.host.isAlive id then (true, bench.onHost (bench.host.kill id)) else (false, bench)
  | none => (false, bench)

def start (config : Config) (bench : Bench) : Except Failure Unit × Bench :=
  let (result, desk) := bench.desk.start programs config (idOf bench.starts)
  (result, { bench with desk := desk, starts := bench.starts + 1 })

def startApart (config : Config) (bench : Bench) : Except Failure Session × Bench :=
  let (result, host) := Session.start programs config (idOf bench.starts) bench.host
  let bench := { bench with starts := bench.starts + 1 }
  match result with
  | .error reason => (.error reason, bench.onHost host)
  | .ok session =>
      let host :=
        match bench.apart with
        | some old => old.drop host
        | none => host
      (.ok session, { bench.onHost host with apart := some session })

def stopApart (session : Session) (bench : Bench) : Bench :=
  let (session, host) := session.stop bench.host
  { bench.onHost host with apart := some session }

/-- Gives a session apart from the executor up. -/
def dropApart (session : Session) (bench : Bench) : Bench :=
  { bench.onHost (session.drop bench.host) with apart := none }

end Bench

end DesktopAgent.Rehearsal
