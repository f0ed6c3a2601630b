import DesktopAgent.Message.Wire
import DesktopAgent.Text.Blank

/-!
What a run ends with.
-/

namespace DesktopAgent

open DesktopAgent.Wire

/-- How a run ended: with an answer of the model, at the end of its budget, or cancelled between two
rounds. -/
inductive Completion where
  | answered (text : String)
  | budgetExhausted
  | cancelled
deriving DecidableEq, Repr

namespace Completion

def encode : Completion → Json
  | .answered text => .object [("status", .string "answered"), ("text", .string text)]
  | .budgetExhausted => .object [("status", .string "budget_exhausted")]
  | .cancelled => .object [("status", .string "cancelled")]

def variants : List (Variant Completion) :=
  [⟨"answered", "Answered", .record (.answered <$> Record.field "text" string)⟩,
    ⟨"budget_exhausted", "BudgetExhausted", .nothing .budgetExhausted⟩,
    ⟨"cancelled", "Cancelled", .nothing .cancelled⟩]

def decode : Decoder Completion := Variant.tagged "Completion" "status" variants

end Completion

/-- The report of a run: how it ended, how often the model was asked, and the conversation. -/
structure Report where
  runId : String
  completion : Completion
  iterations : UInt64
  history : List Turn
deriving Repr

namespace Report

def answer (report : Report) : Option String :=
  match report.completion with
  | .answered text => some text
  | _ => none

/-- What is said of a run without an answer. -/
def fallbackSummary : String := "Computer use task completed."

/-- The final answer without the blanks around it, or a general note when that is empty. -/
def summary (report : Report) : String :=
  match report.answer with
  | some text => if (Text.trimmed text).isEmpty then fallbackSummary else Text.trimmed text
  | none => fallbackSummary

def encode (report : Report) : Json :=
  .object [("completion", report.completion.encode), ("history", Turn.encodeAll report.history),
    ("iterations", .nat report.iterations.toNat), ("run_id", .string report.runId)]

def record : Record Report :=
  Report.mk <$> Record.field "run_id" string <*> Record.field "completion" Completion.decode
    <*> Record.field "iterations" count64 <*> Record.field "history" (sequence Turn.decode)

def decode : Decoder Report := record.decoder "RunReport"

end Report

end DesktopAgent
