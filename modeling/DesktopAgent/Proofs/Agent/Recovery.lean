import DesktopAgent.Agent.Event
import DesktopAgent.Agent.Report
import DesktopAgent.Failure
import DesktopAgent.Model.Request
import DesktopAgent.Proofs.Message.RoundTrip
import DesktopAgent.Proofs.Wire.Recovery

/-!
What is told of a run comes back from its wire form.

Actions, events, completions, reports and failures, with all that they are made of, are written and
read without loss: a value is found again in what was written of it, and a value that was read in
one of its other forms is read again, the same, from what is then written.
-/

namespace DesktopAgent

open DesktopAgent.Wire

theorem Coordinate.decode_encode (source : Source) (place : Coordinate) :
    decode source place.encode = .ok place := by
  have distinct : ["x", "y"].Nodup := by decide
  have finds : record.Finds source [("x", .int place.x.toInt), ("y", .int place.y.toInt)]
      ⟨place.x, place.y⟩ :=
    .apply (.map Coordinate.mk (.field distinct rfl (int64_toInt source place.x)))
      (.field distinct rfl (int64_toInt source place.y))
  exact finds.decoder "Coordinate"

theorem Coordinate.optional_encodeOption (source : Source) (place : Option Coordinate) :
    optional decode source (encodeOption place) = .ok place := by
  cases place with
  | none => rfl
  | some place =>
      have read := decode_encode source place
      exact congrArg (Except.map some) read

theorem ScrollDirection.decode_encode (source : Source) (direction : ScrollDirection) :
    decode source direction.encode = .ok direction := by
  cases direction <;> rfl

namespace Action

/-- The coordinate of an action is found wherever no key stands twice. -/
theorem placeField_finds
    {members : List (String × Json)} {place : Option Coordinate}
    (distinct : (members.map (·.1)).Nodup)
    (present : Json.lookup "coordinate" members = some (Coordinate.encodeOption place)) :
    placeField.Finds .held members place :=
  .optionalField distinct present (Coordinate.optional_encodeOption .held place)

theorem decode_encode (source : Source) (action : Action) :
    decode source action.encode = .ok action := by
  have alone (key : String) : [key].Nodup := List.pairwise_singleton _ key
  cases action with
  | leftClick place =>
      refine Variant.tagged_of_finds rfl rfl ?_
      exact .map leftClick (placeField_finds (alone "coordinate") rfl)
  | rightClick place =>
      refine Variant.tagged_of_finds rfl rfl ?_
      exact .map rightClick (placeField_finds (alone "coordinate") rfl)
  | doubleClick place =>
      refine Variant.tagged_of_finds rfl rfl ?_
      exact .map doubleClick (placeField_finds (alone "coordinate") rfl)
  | type text =>
      refine Variant.tagged_of_finds rfl rfl ?_
      exact .map type (.field (alone "text") rfl rfl)
  | key keys =>
      refine Variant.tagged_of_finds rfl rfl ?_
      exact .map key (.field (alone "key") rfl rfl)
  | scroll place direction amount =>
      have distinct : ["amount", "coordinate", "direction"].Nodup := by decide
      refine Variant.tagged_of_finds rfl rfl ?_
      exact .apply
        (.apply (.map scroll (placeField_finds distinct rfl))
          (.field distinct rfl (ScrollDirection.decode_encode .held direction)))
        (.field distinct rfl (uint32_toNat .held amount))
  | mouseMove place =>
      refine Variant.tagged_of_finds rfl rfl ?_
      exact .map mouseMove
        (.field (alone "coordinate") rfl (Coordinate.decode_encode .held place))
  | screenshot => exact Variant.tagged_of_nothing rfl rfl
  | cursorPosition => exact Variant.tagged_of_nothing rfl rfl
  | unknown name =>
      refine Variant.tagged_of_finds rfl rfl ?_
      exact .map unknown (.field (alone "name") rfl rfl)

end Action

theorem Event.decode_encode (source : Source) (event : Event) :
    decode source event.encode = .ok event := by
  have alone (key : String) : [key].Nodup := List.pairwise_singleton _ key
  cases event with
  | screenshot base64 =>
      refine Variant.tagged_of_finds rfl rfl ?_
      exact .map screenshot (.field (alone "base64") rfl rfl)
  | text content =>
      refine Variant.tagged_of_finds rfl rfl ?_
      exact .map text (.field (alone "content") rfl rfl)
  | action performed =>
      refine Variant.tagged_of_finds rfl rfl ?_
      exact .map action (.field (alone "action") rfl (Action.decode_encode .held performed))

theorem Completion.decode_encode (source : Source) (completion : Completion) :
    decode source completion.encode = .ok completion := by
  have alone : ["text"].Nodup := List.pairwise_singleton _ "text"
  cases completion with
  | answered text =>
      refine Variant.tagged_of_finds rfl rfl ?_
      exact .map answered (.field alone rfl rfl)
  | budgetExhausted => exact Variant.tagged_of_nothing rfl rfl
  | cancelled => exact Variant.tagged_of_nothing rfl rfl

theorem Role.decode_encode (source : Source) (role : Role) :
    decode source role.encode = .ok role := by
  cases role <;> rfl

theorem ImageSource.decode_encode (source : Source) (image : ImageSource) :
    decode source image.encode = .ok image := by
  have distinct : ["data", "media_type", "type"].Nodup := by decide
  have finds : record.Finds source
      [("data", .string image.data), ("media_type", .string image.mediaType),
        ("type", .string image.kind)] ⟨image.kind, image.mediaType, image.data⟩ :=
    .apply
      (.apply (.map ImageSource.mk (.field distinct rfl rfl)) (.field distinct rfl rfl))
      (.field distinct rfl rfl)
  exact finds.decoder "ImageSource"

theorem ToolDeclaration.decode_encode (source : Source) (tool : ToolDeclaration) :
    decode source tool.encode = .ok tool := by
  have distinct : ["display_height_px", "display_width_px", "name", "type"].Nodup := by decide
  have finds : record.Finds source
      [("display_height_px", .nat tool.displayHeight.toNat),
        ("display_width_px", .nat tool.displayWidth.toNat), ("name", .string tool.name),
        ("type", .string tool.kind)]
      ⟨tool.kind, tool.name, tool.displayWidth, tool.displayHeight⟩ :=
    .apply
      (.apply
        (.apply (.map ToolDeclaration.mk (.field distinct rfl rfl)) (.field distinct rfl rfl))
        (.field distinct rfl (uint32_toNat source tool.displayWidth)))
      (.field distinct rfl (uint32_toNat source tool.displayHeight))
  exact finds.decoder "ToolDeclaration"

namespace Failure

/-- A failure whose waiting time, if it has one, is below a bound. -/
def WaitsBelow (bound : Nat) : Failure → Prop
  | .displayStartTimeout _ waitedMs => waitedMs < bound
  | _ => True

theorem decode_encode (source : Source) {failure : Failure} (waits : failure.WaitsBelow (2 ^ 128)) :
    decode source failure.encode = .ok failure := by
  cases failure with
  | displayStartTimeout display waitedMs =>
      have distinct : ["display", "waited_ms"].Nodup := by decide
      refine Variant.untagged_of_finds rfl ?_
      exact .apply (.map displayStartTimeout (.field distinct rfl rfl))
        (.field distinct rfl (natural_of_lt waits source))
  | _ => rfl

theorem yields_waitsBelow : Yields decode (WaitsBelow (2 ^ 128)) := by
  have reasons {failure : String → Failure}
      (untimed : ∀ reason, (failure reason).WaitsBelow (2 ^ 128)) :
      (reasoned failure).Yields (WaitsBelow (2 ^ 128)) := by
    intro source value found read
    obtain ⟨reason, _, rfl⟩ := exists_of_map_eq_ok read
    exact untimed reason
  have displays : (displayStartTimeout <$> Record.field "display" string).Yields
      fun build => ∀ waitedMs < 2 ^ 128, (build waitedMs).WaitsBelow (2 ^ 128) :=
    .map displayStartTimeout (.field "display" fun _ _ _ _ _ small => small)
  refine Yields.untagged fun variant member => ?_
  simp only [variants, List.mem_cons, List.not_mem_nil, or_false] at member
  rcases member with rfl | rfl | rfl | rfl | rfl | rfl | rfl
  · exact displays.apply (.field "waited_ms" yields_natural)
  · exact trivial
  · exact trivial
  · exact reasons fun _ => trivial
  · exact reasons fun _ => trivial
  · exact reasons fun _ => trivial
  · exact reasons fun _ => trivial

end Failure

namespace Report

/-- A report all of whose blocks are well-formed. -/
def WellFormed (report : Report) : Prop :=
  ∀ turn ∈ report.history, turn.WellFormed

theorem sequence_encodeAll
    (source : Source) {turns : List Turn} (wellFormed : ∀ turn ∈ turns, turn.WellFormed) :
    sequence Turn.decode source (Turn.encodeAll turns) = .ok turns := by
  change (turns.map Turn.encode).mapM (Turn.decode source) = .ok turns
  induction turns with
  | nil => rfl
  | cons turn rest inductionHypothesis =>
      have head := Turn.decode_encode source (wellFormed turn List.mem_cons_self)
      have tail := inductionHypothesis fun later member =>
        wellFormed later (List.mem_cons_of_mem turn member)
      rw [List.map_cons, List.mapM_cons, head, tail]
      rfl

theorem decode_encode (source : Source) {report : Report} (wellFormed : report.WellFormed) :
    decode source report.encode = .ok report := by
  have distinct : ["completion", "history", "iterations", "run_id"].Nodup := by decide
  have finds : record.Finds source
      [("completion", report.completion.encode), ("history", Turn.encodeAll report.history),
        ("iterations", .nat report.iterations.toNat), ("run_id", .string report.runId)]
      ⟨report.runId, report.completion, report.iterations, report.history⟩ :=
    .apply
      (.apply
        (.apply (.map Report.mk (.field distinct rfl rfl))
          (.field distinct rfl (Completion.decode_encode source report.completion)))
        (.field distinct rfl (count64_toNat source report.iterations)))
      (.field distinct rfl (sequence_encodeAll source wellFormed))
  exact finds.decoder "RunReport"

-- Of the fields only the history counts, and it comes last.
theorem yields_wellFormed : Yields decode WellFormed := by
  let Builds (build : List Turn → Report) : Prop :=
    ∀ history : List Turn, (∀ turn ∈ history, turn.WellFormed) → WellFormed (build history)
  have ids : (Report.mk <$> Record.field "run_id" string).Yields
      fun build => ∀ completion, True → ∀ iterations, True → Builds (build completion iterations) :=
    .map Report.mk (.field "run_id" fun _ _ _ _ _ _ _ _ _ each => each)
  have completions : (Report.mk <$> Record.field "run_id" string
      <*> Record.field "completion" Completion.decode).Yields
      fun build => ∀ iterations, True → Builds (build iterations) :=
    ids.apply (.field "completion" fun _ _ _ _ => trivial)
  have counts : (Report.mk <$> Record.field "run_id" string
      <*> Record.field "completion" Completion.decode
      <*> Record.field "iterations" count64).Yields Builds :=
    completions.apply (.field "iterations" fun _ _ _ _ => trivial)
  exact Record.Yields.decoder "RunReport"
    (counts.apply (.field "history" Turn.yields_wellFormed.sequence))

end Report

/-- Whatever is told of a run is read back from its wire form, and what was read in any form is read
again from the wire form of what was found. A time of waiting must fit 64 bits, and the blocks of a
report must be well-formed. -/
theorem wire_forms_return :
    Returns Coordinate.encode Coordinate.decode (fun _ => True) ∧
    Returns ScrollDirection.encode ScrollDirection.decode (fun _ => True) ∧
    Returns Action.encode Action.decode (fun _ => True) ∧
    Returns Event.encode Event.decode (fun _ => True) ∧
    Returns Completion.encode Completion.decode (fun _ => True) ∧
    Returns Role.encode Role.decode (fun _ => True) ∧
    Returns ImageSource.encode ImageSource.decode (fun _ => True) ∧
    Returns ToolDeclaration.encode ToolDeclaration.decode (fun _ => True) ∧
    Returns Failure.encode Failure.decode (Failure.WaitsBelow (2 ^ 64)) ∧
    Returns Report.encode Report.decode Report.WellFormed := by
  have failures : Returns Failure.encode Failure.decode (Failure.WaitsBelow (2 ^ 128)) :=
    .of_yields (fun source _ waits => Failure.decode_encode source waits)
      Failure.yields_waitsBelow
  have reports : Returns Report.encode Report.decode Report.WellFormed :=
    .of_yields (fun source _ wellFormed => Report.decode_encode source wellFormed)
      Report.yields_wellFormed
  refine ⟨.of_all Coordinate.decode_encode, .of_all ScrollDirection.decode_encode,
    .of_all Action.decode_encode, .of_all Event.decode_encode, .of_all Completion.decode_encode,
    .of_all Role.decode_encode, .of_all ImageSource.decode_encode,
    .of_all ToolDeclaration.decode_encode, failures.narrow ?_, reports⟩
  intro failure waits
  cases failure with
  | displayStartTimeout display waitedMs => exact Nat.lt_trans waits (by decide)
  | _ => exact trivial

/-- An event in the form of an array that holds its action in the same form, which is given by an
index, and a direction in the form of an object. -/
def arrangedEvent : Json :=
  .array [.string "action", .array [.int 5, .array [.int (-9223372036854775808), .int 7],
    .object [("left", .null)], .nat 4294967295]]

/-- A report in the form of an array, with a block of a kind that is not read. -/
def arrangedReport : Json :=
  .array [.string "run", .array [.string "answered", .string "done"], .nat 18446744073709551615,
    .array [.array [.string "user", .array [.object [("type", .string "thinking")]]]]]

theorem wire_forms_return_arranged :
    Event.decode .direct arrangedEvent =
        .ok (.action (.scroll (some ⟨-9223372036854775808, 7⟩) .left 4294967295)) ∧
      Event.decode .direct
          (Event.action (.scroll (some ⟨-9223372036854775808, 7⟩) .left 4294967295)).encode =
        Event.decode .direct arrangedEvent ∧
      Failure.decode .direct (Failure.displayStartTimeout ":1" 18446744073709551615).encode =
        .ok (.displayStartTimeout ":1" 18446744073709551615) ∧
      ∃ report : Report, report.WellFormed ∧ Report.decode .direct arrangedReport = .ok report ∧
        Report.decode .direct report.encode = .ok report := by
  obtain ⟨_, _, _, events, _, _, _, _, failures, reports⟩ := wire_forms_return
  have event : Event.decode .direct arrangedEvent =
      .ok (.action (.scroll (some ⟨-9223372036854775808, 7⟩) .left 4294967295)) := rfl
  have report : Report.decode .direct arrangedReport = .ok ⟨"run", .answered "done",
      18446744073709551615, [⟨.user, [.other (.object [("type", .string "thinking")])]⟩]⟩ := rfl
  have wellFormed := Report.yields_wellFormed _ _ _ report
  refine ⟨event, events.settles .direct .direct _ _ event, ?_, ?_⟩
  · exact failures.reads_back .direct _ (by decide : 18446744073709551615 < 2 ^ 64)
  · exact ⟨_, wellFormed, report, reports.reads_back .direct _ wellFormed⟩

end DesktopAgent
