import DesktopAgent.Proofs.Agent.Alongside
import DesktopAgent.Proofs.Agent.Loop

/-!
Only texts and the inputs of tools steer a run.

What steers of a reply are its texts and the inputs of its tool uses, in order. Models whose replies
steer alike keep two runs side by side: what the runs do is the same, and what the user says to the
models is the same but for the ids of the uses that are answered. The histories themselves may
differ, and so may the requests.
-/

namespace DesktopAgent

/-- What of a block steers a run. -/
def Block.steering? : Block → Option Block
  | .text words => some (.text words)
  | .toolUse _ _ input => some (.toolUse "" "" input)
  | _ => none

/-- The block with the id of an answered use erased. -/
def Block.unaddressed : Block → Block
  | .toolResult _ content isError => .toolResult "" content isError
  | block => block

namespace Turn

/-- What of a turn steers a run. -/
def steering (turn : Turn) : List Block := turn.content.filterMap Block.steering?

/-- The turn with the ids of answered uses erased. -/
def unaddressed (turn : Turn) : Turn :=
  { turn with content := turn.content.map Block.unaddressed }

theorem texts_eq_steering (turn : Turn) :
    turn.texts = turn.steering.filterMap Block.text? := by
  rw [texts, steering, List.filterMap_filterMap]
  congr 1
  funext block
  cases block <;> rfl

theorem hasText_eq_steering (turn : Turn) :
    turn.hasText = turn.steering.any fun block => block.text?.isSome := by
  rw [hasText, steering, List.any_filterMap]
  congr 1
  funext block
  cases block <;> rfl

theorem hasToolUse_eq_steering (turn : Turn) :
    turn.hasToolUse = turn.steering.any Block.isToolUse := by
  rw [hasToolUse, steering, List.any_filterMap]
  congr 1
  funext block
  cases block <;> rfl

end Turn

/-- The turns of the user in a conversation, with the ids of answered uses erased. -/
def userTurns (history : List Turn) : List Turn :=
  (history.filter fun turn => turn.role == .user).map Turn.unaddressed

theorem userTurns_append (earlier later : List Turn) :
    userTurns (earlier ++ later) = userTurns earlier ++ userTurns later := by
  rw [userTurns, List.filter_append, List.map_append]
  rfl

/-- A turn of the assistant is none of the user's. -/
theorem userTurns_cons_assistant
    {reply : Turn} (role : reply.role = .assistant) (later : List Turn) :
    userTurns (reply :: later) = userTurns later := by
  obtain ⟨_, content⟩ := reply
  cases role
  rfl

/-- What of a report is left when the replies of the model are left out. -/
def Report.outline (report : Report) : Completion × UInt64 × List Turn :=
  (report.completion, report.iterations, userTurns report.history)

/-- In states that are alike the model gives replies that steer alike, whatever it is asked. -/
def Model.SteersAlike {μ : Type} (model : Model μ) (alike : μ → μ → Prop) : Prop :=
  ∀ request otherRequest state otherState, alike state otherState →
    Agent.ResultsAgree (fun reply other => reply.steering = other.steering)
        (model.reply request state).1 (model.reply otherRequest otherState).1 ∧
      alike (model.reply request state).2 (model.reply otherRequest otherState).2

namespace Rehearsal

/-- What of a script steers a run. -/
def Replies.steering (replies : Replies) :
    List (Except Failure (List Block)) × Option (List Block) :=
  (replies.next.map (Except.map Turn.steering), replies.afterwards.map Turn.steering)

theorem Replies.take_steering
    {first second : Replies} (alike : first.steering = second.steering) :
    first.take.1.map Turn.steering = second.take.1.map Turn.steering ∧
      first.take.2.steering = second.take.2.steering := by
  obtain ⟨next, afterwards⟩ := first
  obtain ⟨otherNext, otherAfterwards⟩ := second
  obtain ⟨nexts, rest⟩ := Prod.mk.inj alike
  dsimp only at nexts rest
  cases next with
  | nil =>
      cases otherNext with
      | nil =>
          cases afterwards with
          | none =>
              cases otherAfterwards with
              | none => exact ⟨rfl, rfl⟩
              | some turn => cases rest
          | some turn =>
              cases otherAfterwards with
              | none => cases rest
              | some otherTurn =>
                  exact ⟨congrArg Except.ok (Option.some.inj rest), alike⟩
      | cons otherReply otherNext => cases nexts
  | cons reply next =>
      cases otherNext with
      | nil => cases nexts
      | cons otherReply otherNext =>
          obtain ⟨same, nexts⟩ := List.cons.inj nexts
          exact ⟨same, Prod.ext nexts rest⟩

theorem model_steersAlike :
    model.SteersAlike fun first second => first.steering = second.steering := by
  intro request otherRequest first second alike
  obtain ⟨results, still⟩ := Replies.take_steering alike
  exact ⟨(Agent.ResultsAgree.of_eq results).of_map, still⟩

end Rehearsal

namespace Agent

variable {σ μ : Type}

theorem runTool_unaddressed (agent : Agent σ μ) (id : String) (input : Json) :
    Block.unaddressed <$> agent.runTool id input = agent.runTool "" input := by
  unfold runTool
  cases Action.ofInput input with
  | ok action =>
      dsimp only
      simp only [map_bind, map_pure]
      rfl
  | error error =>
      dsimp only
      simp only [map_bind, map_pure]
      rfl

theorem act_unaddressed (agent : Agent σ μ) (blocks : List Block) :
    List.map Block.unaddressed <$> agent.act blocks =
      agent.act (blocks.filterMap Block.steering?) := by
  induction blocks with
  | nil => rfl
  | cons block blocks inductionHypothesis =>
      cases block with
      | text words =>
          change List.map _ <$> (emit (.text words) >>= fun _ => agent.act blocks) =
            emit (.text words) >>= fun _ =>
              agent.act (blocks.filterMap Block.steering?)
          rw [map_bind, inductionHypothesis]
      | toolUse id name input =>
          change List.map _ <$> (agent.runTool id input >>= fun result =>
              agent.act blocks >>= fun results => pure (result :: results)) =
            agent.runTool "" input >>= fun result =>
              agent.act (blocks.filterMap Block.steering?) >>= fun results =>
                pure (result :: results)
          rw [← agent.runTool_unaddressed id, ← inductionHypothesis]
          simp only [map_bind, map_pure, bind_map_left, List.map_cons]
      | image source => exact inductionHypothesis
      | toolResult id content isError => exact inductionHypothesis
      | other raw => exact inductionHypothesis

namespace Alongside

variable {alike : μ → μ → Prop} (agent : Agent σ μ)

theorem act_of_steering
    {first second : Turn} (steering : first.steering = second.steering) :
    Alongside alike
      (fun results others =>
        results.map Block.unaddressed = others.map Block.unaddressed)
      (agent.act first.content) (agent.act second.content) := by
  apply of_map
  rw [agent.act_unaddressed, agent.act_unaddressed]
  change Alongside alike Eq (agent.act first.steering) (agent.act second.steering)
  rw [steering]
  exact act agent second.steering

theorem tellAnswer_of_steering
    {first second : Turn} (steering : first.steering = second.steering) :
    Alongside alike Eq (tellAnswer first : Stretch σ μ Unit) (tellAnswer second) := by
  unfold tellAnswer Turn.text
  rw [first.hasText_eq_steering, first.texts_eq_steering, steering,
    ← second.hasText_eq_steering, ← second.texts_eq_steering]
  split
  · exact emit _
  · exact pure rfl

variable {agent}

theorem ask
    (steersAlike : agent.model.SteersAlike alike) (history otherHistory : List Turn) :
    Alongside alike
      (fun reply other =>
        reply.role = .assistant ∧ other.role = .assistant ∧
          reply.steering = other.steering)
      (agent.ask history) (agent.ask otherHistory) := by
  apply (note_request _ _).bind
  rintro _ _ rfl
  apply (callModel (steersAlike _ _)).bind
  intro reply other steering
  exact pure ⟨rfl, rfl, steering⟩

/-- By induction on the budget. What the user has said in the two conversations stays the same. -/
theorem rounds
    (steersAlike : agent.model.SteersAlike alike) (runId otherId : String)
    (budget : Nat) (asked : UInt64) {history otherHistory : List Turn}
    (said : userTurns history = userTurns otherHistory) :
    Alongside alike (fun report other => report.outline = other.outline)
      (agent.rounds runId budget asked history)
      (agent.rounds otherId budget asked otherHistory) := by
  induction budget generalizing asked history otherHistory with
  | zero =>
      apply pure
      rw [Report.outline, Report.outline, said]
  | succ budget inductionHypothesis =>
      unfold Agent.rounds
      apply (isCancelled agent).bind
      rintro due _ rfl
      cases due with
      | true =>
          apply pure
          rw [Report.outline, Report.outline, said]
      | false =>
          apply (ask steersAlike history otherHistory).bind
          rintro reply other ⟨role, otherRole, steering⟩
          -- Both replies ask for tools or neither does.
          rw [reply.hasToolUse_eq_steering, other.hasToolUse_eq_steering, steering]
          split
          · apply (act_of_steering agent steering).bind
            intro results others same
            apply inductionHypothesis
            rw [userTurns_append, userTurns_append, said,
              userTurns_cons_assistant role, userTurns_cons_assistant otherRole]
            exact congrArg (fun told => userTurns otherHistory ++ [.user told]) same
          · apply (tellAnswer_of_steering steering).bind
            rintro _ _ rfl
            apply pure
            rw [Report.outline, Report.outline, userTurns_append, userTurns_append, said,
              userTurns_cons_assistant role, userTurns_cons_assistant otherRole,
              Turn.text, Turn.text, reply.texts_eq_steering, steering,
              ← other.texts_eq_steering]

theorem run
    (steersAlike : agent.model.SteersAlike alike) (runId otherId task : String) :
    Alongside alike (fun report other => report.outline = other.outline)
      (agent.run runId task) (agent.run otherId task) := by
  apply (takeScreenshot agent).bind
  rintro base64 _ rfl
  exact rounds steersAlike runId otherId _ 0 rfl

end Alongside

variable {agent : Agent σ Rehearsal.Replies} {runId otherId task : String}
variable {computer : σ} {first second : Rehearsal.Replies}
variable {result otherResult : Except Failure Report}
variable {final otherFinal : Progress σ Rehearsal.Replies}

/-- Runs with scripts that steer alike do the same, ask equally often, and end in the same way. All
that the user says in them is the same but for the ids of the uses that are answered. -/
theorem steering_of_execute
    (scripted : agent.model = Rehearsal.model)
    (alike : first.steering = second.steering)
    (ran : agent.execute runId task computer first = (result, final))
    (ranAlike :
      agent.execute otherId task computer second = (otherResult, otherFinal)) :
    final.trace.visible = otherFinal.trace.visible ∧
    final.trace.requests.length = otherFinal.trace.requests.length ∧
    result.map Report.outline = otherResult.map Report.outline := by
  have steersAlike :
      agent.model.SteersAlike fun first second => first.steering = second.steering := by
    rw [scripted]
    exact Rehearsal.model_steersAlike
  have start :
      SideBySide (fun first second => first.steering = second.steering)
        (⟨[], computer, first⟩ : Progress σ Rehearsal.Replies)
        ⟨[], computer, second⟩ :=
    ⟨rfl, alike, rfl, rfl⟩
  have ended := Alongside.run steersAlike runId otherId task _ _ start
  change ResultsAgree _ (agent.execute runId task computer first).1
      (agent.execute otherId task computer second).1 ∧
    SideBySide _ (agent.execute runId task computer first).2
      (agent.execute otherId task computer second).2 at ended
  rw [ran, ranAlike] at ended
  obtain ⟨results, sideBySide⟩ := ended
  exact ⟨sideBySide.visible, sideBySide.requests, results.map_eq⟩

/-- The replies of the rehearsal with other roles, names and ids, and with blocks of other kinds
around what steers. -/
def clutteredReplies : Rehearsal.Replies where
  next :=
    [.ok (.assistant [.png "picture", .text "Looking.", .other (.string "thought"),
      .toolUse "c" "mouse" (.object [("action", .string "left_click")]),
      .toolResult "c" [.text "done"] false,
      .toolUse "d" "mouse" (.string "left_click")]),
    .ok (.user
      [.toolUse "" "" (.object [("action", .string "cursor_position")]), .png "picture"]),
    .ok (.user [.text "Found", .toolResult "d" [] true, .text "it."])]
  afterwards := none

def cluttered : Except Failure Report × Progress Rehearsal.Screens Rehearsal.Replies :=
  rehearsedAgent.execute "cluttered" "task" ⟨[], [], 0⟩ clutteredReplies

def clutteredReport : Report where
  runId := "cluttered"
  completion := .answered "Found\nit."
  iterations := 3
  history :=
    [.user [.text "task", .png "screen-0"],
    .assistant [.png "picture", .text "Looking.", .other (.string "thought"),
      .toolUse "c" "mouse" (.object [("action", .string "left_click")]),
      .toolResult "c" [.text "done"] false,
      .toolUse "d" "mouse" (.string "left_click")],
    .user [.toolResult "c" [.png "screen-1"] false,
      .toolResult "d"
        [.text "Error: tool input must be a JSON object", .png "screen-1"] true],
    .assistant
      [.toolUse "" "" (.object [("action", .string "cursor_position")]), .png "picture"],
    .user [.toolResult "" [.text "x:1 y:2 screen:0 window:3"] false],
    .assistant [.text "Found", .toolResult "d" [] true, .text "it."]]

/-- With all that clutter the rehearsal does what it does without it. -/
theorem steering_of_rehearsed :
    cluttered.1 = .ok clutteredReport ∧
    rehearsed.2.trace.visible = cluttered.2.trace.visible ∧
    rehearsed.2.trace.requests.length = cluttered.2.trace.requests.length ∧
    rehearsedReport.outline = clutteredReport.outline := by
  have reported : cluttered.1 = .ok clutteredReport := by
    with_unfolding_all rfl
  have clutteredRan : cluttered = (.ok clutteredReport, cluttered.2) :=
    Prod.ext reported rfl
  have alike : rehearsedReplies.steering = clutteredReplies.steering := rfl
  obtain ⟨visible, requests, outlines⟩ :=
    steering_of_execute rfl alike rehearsed_ran clutteredRan
  exact ⟨reported, visible, requests, Except.ok.inj outlines⟩

end Agent

end DesktopAgent
