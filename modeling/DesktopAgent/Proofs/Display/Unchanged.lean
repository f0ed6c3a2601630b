import DesktopAgent.Proofs.Display.Capture
import DesktopAgent.Proofs.Display.Screen
import DesktopAgent.Proofs.Text.Base64
import DesktopAgent.Proofs.Text.Utf8
import Mathlib.Data.List.Count

/-!
Actions of which an input command fails.

When commands that fail leave the screen and commands that succeed alter it, the picture after such
an action is that of the screen before it, unless another of its commands succeeds. Only a scroll
that moves and turns the wheel has two commands.
-/

namespace DesktopAgent.Display

open DesktopAgent.Rehearsal (Stage)
open DesktopAgent.Text

variable {τ : Type} {programs : Programs τ} {config : Config} {session : Session}

/-- How the input commands of an action end. -/
def inputRuns (programs : Programs τ) (config : Config) (session : Session) (action : Action)
    (host : Host τ) : List (Task × Outcome) :=
  (runTasks programs config session
    ((commands config.typingDelayMs action).map .input) host).1

theorem inputRuns_length (action : Action) (host : Host τ) :
    (inputRuns programs config session action host).length =
      (commands config.typingDelayMs action).length := by
  have tasks : (inputRuns programs config session action host).map (·.1) =
      (commands config.typingDelayMs action).map .input :=
    runTasks_tasks _ host
  have lengths := congrArg List.length tasks
  rwa [List.length_map, List.length_map] at lengths

/-- An action has one input command at most, unless it is a scroll that moves and turns the wheel.
-/
theorem commands_length (typingDelayMs : UInt64) (action : Action) :
    (commands typingDelayMs action).length ≤ 1 ∨
      (commands typingDelayMs action).length = 2 ∧
        ∃ place direction amount, action = .scroll (some place) direction amount ∧ amount ≠ 0 := by
  cases action with
  | scroll place direction amount =>
      by_cases still : amount = 0
      · cases place <;> simp [commands, scrollCommands, still]
      · cases place <;> simp [commands, scrollCommands, still]
  | _ => simp [commands]

/-- Tools among which an input command of the table alters the screen when it succeeds and leaves it
otherwise, and each capture takes a copy of the screen. While nothing is run the screen stays. -/
structure Alters (programs : Programs τ) (config : Config) (session : Session)
    (screen : τ → List UInt8) : Prop where
  keeps : ∀ (action : Action) (arguments : List String) (host : Host τ),
    arguments ∈ commands config.typingDelayMs action →
    .ofRun (host.runCommand programs
      (session.invocation config.input arguments)).1 ≠ Outcome.succeeded →
    screen (host.runCommand programs (session.invocation config.input arguments)).2.scene =
      screen host.scene
  changes : ∀ (action : Action) (arguments : List String) (host : Host τ),
    arguments ∈ commands config.typingDelayMs action →
    .ofRun (host.runCommand programs
      (session.invocation config.input arguments)).1 = Outcome.succeeded →
    screen (host.runCommand programs (session.invocation config.input arguments)).2.scene ≠
      screen host.scene
  copies : ∀ host : Host τ, Takes programs config session host (screen host.scene)
  pause : ∀ (span : Span) (host : Host τ),
    screen (host.pause programs span).scene = screen host.scene

def successes (runs : List (Task × Outcome)) : Nat :=
  runs.countP fun run => run.2 = .succeeded

theorem successes_cons_of_succeeded (task : Task) (rest : List (Task × Outcome)) :
    successes ((task, .succeeded) :: rest) = successes rest + 1 :=
  List.countP_cons_of_pos rfl

theorem successes_cons_of_ne
    {outcome : Outcome} (missed : outcome ≠ .succeeded) (task : Task)
    (rest : List (Task × Outcome)) :
    successes ((task, outcome) :: rest) = successes rest :=
  List.countP_cons_of_neg (by simpa using missed)

namespace Alters

variable {screen : τ → List UInt8} {action : Action}

theorem screen_of_none
    (alters : Alters programs config session screen) (lines : List (List String))
    (known : ∀ arguments ∈ lines, arguments ∈ commands config.typingDelayMs action) :
    ∀ host : Host τ,
      successes (runTasks programs config session (lines.map .input) host).1 = 0 →
        screen (runTasks programs config session (lines.map .input) host).2.scene =
          screen host.scene := by
  induction lines with
  | nil => exact fun _ _ => rfl
  | cons arguments rest inductionHypothesis =>
      intro host none
      have missed : .ofRun (host.runCommand programs
          (session.invocation config.input arguments)).1 ≠ Outcome.succeeded := fun succeeds =>
        List.countP_eq_zero.mp none _ List.mem_cons_self (decide_eq_true succeeds)
      have others := inductionHypothesis
        (fun other member => known other (List.mem_cons_of_mem arguments member))
        (host.runCommand programs (session.invocation config.input arguments)).2
        ((successes_cons_of_ne missed (.input arguments) _).symm.trans none)
      exact others.trans (alters.keeps action arguments host (known _ List.mem_cons_self) missed)

/-- Commands of which one alone succeeds alter the screen, whichever it is. -/
theorem screen_of_one
    (alters : Alters programs config session screen) (lines : List (List String))
    (known : ∀ arguments ∈ lines, arguments ∈ commands config.typingDelayMs action) :
    ∀ host : Host τ,
      successes (runTasks programs config session (lines.map .input) host).1 = 1 →
        screen (runTasks programs config session (lines.map .input) host).2.scene ≠
          screen host.scene := by
  induction lines with
  | nil => exact fun _ one => by cases one
  | cons arguments rest inductionHypothesis =>
      intro host one
      have later := fun other member => known other (List.mem_cons_of_mem arguments member)
      -- Either this command alters the screen and the later ones keep it altered, or this one keeps
      -- it and the one that succeeds is among the later ones.
      by_cases succeeds : .ofRun (host.runCommand programs
          (session.invocation config.input arguments)).1 = Outcome.succeeded
      · have changed := alters.changes action arguments host (known _ List.mem_cons_self) succeeds
        have none : successes (runTasks programs config session (rest.map .input)
            (host.runCommand programs (session.invocation config.input arguments)).2).1 = 0 := by
          have counted := successes_cons_of_succeeded (.input arguments)
            (runTasks programs config session (rest.map .input)
              (host.runCommand programs (session.invocation config.input arguments)).2).1
          rw [← succeeds] at counted
          exact Nat.succ.inj (counted.symm.trans one)
        have others := alters.screen_of_none rest later _ none
        intro same
        exact changed (others.symm.trans same)
      · have others := inductionHypothesis later
          (host.runCommand programs (session.invocation config.input arguments)).2
          ((successes_cons_of_ne succeeds (.input arguments) _).symm.trans one)
        have kept := alters.keeps action arguments host (known _ List.mem_cons_self) succeeds
        intro same
        exact others (same.trans kept.symm)

end Alters

/-- What is seen after an action of which an input command did not succeed: the screen that its
commands leave, which is the one before it just when none of them succeeded. One of them succeeds
only in a scroll that moves and turns the wheel. -/
structure Spared (programs : Programs τ) (config : Config) (session : Session)
    (screen : τ → List UInt8) (desk : Desk τ) (action : Action) : Prop where
  shown : (Desk.execute programs config action desk).1 =
    .ok (.screenshot (Base64.encode (screen (runTasks programs config session
      ((commands config.typingDelayMs action).map .input) desk.host).2.scene)))
  unchanged : (Desk.execute programs config action desk).1 =
      .ok (.screenshot (Base64.encode (screen desk.host.scene))) ↔
    ∀ run ∈ inputRuns programs config session action desk.host, run.2 ≠ .succeeded
  mixed : (∃ run ∈ inputRuns programs config session action desk.host, run.2 = .succeeded) →
    ∃ place direction amount, action = .scroll (some place) direction amount ∧ amount ≠ 0

/-- When commands that fail leave the screen, an action of which a command fails shows the screen as
it was, unless its other command succeeds. -/
theorem spared_of_failure
    {screen : τ → List UInt8} (alters : Alters programs config session screen) {desk : Desk τ}
    (held : desk.session = some session) {action : Action} (shows : action ≠ .cursorPosition)
    (failure : ∃ run ∈ inputRuns programs config session action desk.host,
      run.2 ≠ .succeeded) :
    Spared programs config session screen desk action := by
  have shown : (Desk.execute programs config action desk).1 =
      .ok (.screenshot (Base64.encode (screen (runTasks programs config session
        ((commands config.typingDelayMs action).map .input) desk.host).2.scene))) := by
    rw [Desk.execute_of_held action held, Desk.executeIn_of_ne shows,
      Desk.capture_of_takes (alters.copies _), settled, alters.pause]
    rfl
  have fewer : successes (inputRuns programs config session action desk.host) <
      (commands config.typingDelayMs action).length := by
    rw [← inputRuns_length action desk.host]
    exact List.countP_lt_length_iff.mpr (by simpa using failure)
  have known : ∀ arguments ∈ commands config.typingDelayMs action,
      arguments ∈ commands config.typingDelayMs action := fun _ member => member
  have unchanged : screen (runTasks programs config session
        ((commands config.typingDelayMs action).map .input) desk.host).2.scene =
      screen desk.host.scene ↔
        successes (inputRuns programs config session action desk.host) = 0 := by
    constructor
    · intro same
      by_contra some
      -- There are two commands at most and one has failed, so just one has succeeded.
      have one : successes (inputRuns programs config session action desk.host) = 1 := by
        have short := commands_length config.typingDelayMs action
        omega
      exact alters.screen_of_one _ known desk.host one same
    · exact alters.screen_of_none _ known desk.host
  have none : successes (inputRuns programs config session action desk.host) = 0 ↔
      ∀ run ∈ inputRuns programs config session action desk.host, run.2 ≠ .succeeded := by
    simp [successes, List.countP_eq_zero]
  refine { shown := shown, unchanged := ?_, mixed := ?_ }
  · rw [shown, ← none, ← unchanged]
    exact ⟨fun same => Base64.encode_injective (by injection same with same; injection same),
      fun same => by rw [same]⟩
  · intro mixed
    have some : successes (inputRuns programs config session action desk.host) ≠ 0 := by
      intro zero
      obtain ⟨run, member, succeeded⟩ := mixed
      exact none.mp zero run member succeeded
    rcases commands_length config.typingDelayMs action with short | ⟨_, scroll⟩
    · omega
    · exact scroll

theorem asksPointer_of_mem
    {typingDelayMs : UInt64} {action : Action} {arguments : List String}
    (member : arguments ∈ commands typingDelayMs action) :
    Stage.asksPointer arguments = false := by
  have clicks (place : Option Coordinate) (click : List String) :
      Stage.asksPointer (clickArguments place click) = false := by
    cases place <;> simp [Stage.asksPointer, clickArguments, moveArguments]
  cases action with
  | leftClick place | rightClick place | doubleClick place =>
      rw [List.mem_singleton.mp member]
      exact clicks place _
  | type text | key keys =>
      rw [List.mem_singleton.mp member]
      simp [Stage.asksPointer]
  | scroll place direction amount =>
      rcases List.mem_append.mp member with isMove | isClick
      · obtain ⟨target, _, rfl⟩ := Option.map_eq_some_iff.mp (Option.mem_toList.mp isMove)
        simp [Stage.asksPointer, moveArguments]
      · split at isClick
        · cases isClick
        · rw [List.mem_singleton.mp isClick]
          simp [Stage.asksPointer]
  | mouseMove place =>
      rw [List.mem_singleton.mp member]
      simp [Stage.asksPointer, moveArguments]
  | screenshot | cursorPosition | unknown name => cases member

theorem lineOf_ne_nil (arguments : List String) : Stage.lineOf arguments ≠ [] := by
  intro empty
  have text := Utf8.decode_encode (" ".intercalate arguments ++ "\n")
  rw [show Utf8.encode (" ".intercalate arguments ++ "\n") = [] from empty] at text
  have lengths := congrArg String.length text
  rw [String.length_append] at lengths
  exact Nat.succ_ne_zero _ lengths.symm

theorem Draws.alters
    {screen : τ → List UInt8} (draws : Draws programs config session screen) :
    Alters programs config session screen where
  keeps action arguments host member missed := by
    rw [draws.input arguments host (Or.inr ⟨action, member⟩), lineOf,
      if_neg fun both => missed both.1, List.append_nil]
  changes action arguments host member succeeds := by
    obtain ⟨program, alone⟩ := draws.alone
    have tail : (session.invocation config.input arguments).argv.tail = arguments := by
      rw [Session.invocation, alone]
      rfl
    rw [draws.input arguments host (Or.inr ⟨action, member⟩), tail, lineOf,
      if_pos ⟨succeeds, asksPointer_of_mem member⟩]
    intro same
    exact lineOf_ne_nil arguments (List.append_right_eq_self.mp same)
  copies host := takes_of_succeeded (draws.capture host).1 (draws.capture host).2.1
  pause := draws.pause

/-- Neither command of a scroll is carried out, and the screen is seen as it was. -/
theorem spared_of_easel :
    (Desk.execute Easel.tools Easel.settings (.scroll (some ⟨50, 60⟩) .down 2)
      (Easel.started [.failed, .unstarted])).1 =
        .ok (.screenshot (Base64.encode Stage.emptyScreen)) ∧
    Spared Easel.tools Easel.settings Easel.first Easel.screen
      (Easel.started [.failed, .unstarted]) (.scroll (some ⟨50, 60⟩) .down 2) := by
  have held : (Easel.started [.failed, .unstarted]).session = some Easel.first := by
    with_unfolding_all rfl
  have runs : inputRuns Easel.tools Easel.settings Easel.first
      (.scroll (some ⟨50, 60⟩) .down 2) (Easel.started [.failed, .unstarted]).host =
        [(.input (moveArguments ⟨50, 60⟩), .failed),
          (.input ["click", "--repeat", "2", "5"], .unstarted)] := by
    with_unfolding_all rfl
  refine ⟨by with_unfolding_all rfl, spared_of_failure Easel.draws.alters held (by simp) ?_⟩
  rw [runs]
  exact ⟨_, List.mem_cons_self, by simp⟩

/-- The first command of a scroll is carried out and the second is not: the move is seen. -/
theorem easel_changed_by_failing_scroll :
    Alters Easel.tools Easel.settings Easel.first Easel.screen ∧
    (Easel.started [.succeeded, .failed]).session = some Easel.first ∧
    inputRuns Easel.tools Easel.settings Easel.first (.scroll (some ⟨50, 60⟩) .down 2)
        (Easel.started [.succeeded, .failed]).host =
      [(.input (moveArguments ⟨50, 60⟩), .succeeded),
        (.input ["click", "--repeat", "2", "5"], .failed)] ∧
    (Desk.execute Easel.tools Easel.settings (.scroll (some ⟨50, 60⟩) .down 2)
      (Easel.started [.succeeded, .failed])).1 =
        .ok (.screenshot (Base64.encode (Utf8.encode "desktop\nmousemove --sync 50 60\n"))) ∧
    (Desk.execute Easel.tools Easel.settings (.scroll (some ⟨50, 60⟩) .down 2)
      (Easel.started [.succeeded, .failed])).1 ≠
        .ok (.screenshot (Base64.encode
          (Easel.started [.succeeded, .failed]).host.scene.screen)) := by
  have shown : (Desk.execute Easel.tools Easel.settings (.scroll (some ⟨50, 60⟩) .down 2)
      (Easel.started [.succeeded, .failed])).1 =
        .ok (.screenshot (Base64.encode (Utf8.encode "desktop\nmousemove --sync 50 60\n"))) := by
    with_unfolding_all rfl
  have before : (Easel.started [.succeeded, .failed]).host.scene.screen =
      Utf8.encode "desktop\n" := by
    with_unfolding_all rfl
  refine ⟨Easel.draws.alters, by with_unfolding_all rfl, by with_unfolding_all rfl, shown, ?_⟩
  rw [shown, before]
  intro same
  injection same with same
  injection same with same
  have texts := congrArg Utf8.decode (Base64.encode_injective same)
  rw [Utf8.decode_encode, Utf8.decode_encode] at texts
  exact absurd texts (by decide)

end DesktopAgent.Display
