import DesktopAgent.Agent.Event
import DesktopAgent.Model.Request

/-!
What a run does, in the order in which it does it, and when it is told to stop.
-/

namespace DesktopAgent

/-- One thing that a run does: a call to the computer, an event, or a request to the model. -/
inductive Entry where
  | screenshot
  | execute (action : Action)
  | event (told : Event)
  | request (asked : Request)
deriving Repr

namespace Entry

def event? : Entry → Option Event
  | .event told => some told
  | _ => none

def request? : Entry → Option Request
  | .request asked => some asked
  | _ => none

end Entry

/-- What a run has done so far, in order. -/
abbrev Trace := List Entry

namespace Trace

def events (trace : Trace) : List Event := trace.filterMap Entry.event?

def requests (trace : Trace) : List Request := trace.filterMap Entry.request?

end Trace

/-- The moment at which a run is told to stop: never, before it starts, when it gives the event of
an index, or while the request of an index is answered. Indices count from zero. -/
inductive Cancellation where
  | never
  | before
  | onEvent (index : Nat)
  | onRequest (index : Nat)
deriving DecidableEq, Repr

/-- Whether the moment has come. Once it has, it has for every longer trace. -/
def Cancellation.isDue (cancellation : Cancellation) (trace : Trace) : Bool :=
  match cancellation with
  | .never => false
  | .before => true
  | .onEvent index => index < trace.events.length
  | .onRequest index => index < trace.requests.length

theorem Cancellation.isDue_append {cancellation : Cancellation} {trace : Trace}
    (due : cancellation.isDue trace = true) (later : Trace) :
    cancellation.isDue (trace ++ later) = true := by
  cases cancellation with
  | never => exact due
  | before => rfl
  | onEvent index =>
      have isBelow : index < trace.events.length := of_decide_eq_true due
      apply decide_eq_true
      simp only [Trace.events, List.filterMap_append, List.length_append] at isBelow ⊢
      omega
  | onRequest index =>
      have isBelow : index < trace.requests.length := of_decide_eq_true due
      apply decide_eq_true
      simp only [Trace.requests, List.filterMap_append, List.length_append] at isBelow ⊢
      omega

end DesktopAgent
