import DesktopAgent.Action.Basic
import DesktopAgent.Failure
import DesktopAgent.Model.Request

/-!
The two partners of a run: the computer that is operated and the model that is asked.

Each keeps a state of its own, and each call may fail. A call gives its result together with the
state after it.
-/

namespace DesktopAgent

/-- What an action let the model see: the screen as base64 text, or the report of where the pointer
is. -/
inductive Observation where
  | screenshot (base64 : String)
  | cursorPosition (report : String)
deriving DecidableEq, Repr

/-- A computer with states in `σ`. -/
structure Computer (σ : Type) where
  dimensions : Dimensions
  screenshot : σ → Except Failure String × σ
  execute : Action → σ → Except Failure Observation × σ

/-- A model with states in `μ`. -/
structure Model (μ : Type) where
  reply : Request → μ → Except Failure Turn × μ

end DesktopAgent
