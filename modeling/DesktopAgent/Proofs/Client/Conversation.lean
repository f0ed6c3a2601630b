import DesktopAgent.Proofs.Client.Exchange
import DesktopAgent.Proofs.Client.Response
import DesktopAgent.Proofs.Message.NormalForm
import DesktopAgent.Rehearsal.Server

/-!
The conversation as it stands in the bodies of the requests of a run.

Each request repeats the messages of the one before it and adds two: what the response said, in its
normal form, and the results of its tool uses. What is said of ids is said of the members of the
values that are sent and received.
-/

namespace DesktopAgent

open DesktopAgent.Json (NumberText)
open DesktopAgent.Wire

/-- Whether a value is an object of a type. -/
def Json.hasType (name : String) (value : Json) : Bool :=
  (value.get? "type").bind Json.text? = some name

theorem Request.messages_encode (request : Request) :
    request.encode.get? "messages" = some (.array (request.messages.map Turn.encode)) :=
  rfl

/-- The betas of a request are no member of it. -/
theorem Request.betas_encode (request : Request) : request.encode.get? "betas" = none :=
  rfl

namespace Block

theorem encodeAll_eq_map (blocks : List Block) : encodeAll blocks = blocks.map encode := by
  induction blocks with
  | nil => rfl
  | cons block rest inductionHypothesis => rw [encodeAll, inductionHypothesis, List.map_cons]

theorem hasType_of_lookup
    {members : List (String × Json)} {kind : String} (name : String)
    (typed : Json.lookup "type" members = some (.string kind)) :
    (Json.object members).hasType name = decide (kind = name) := by
  simp only [Json.hasType, Json.get?, Json.members?, Option.bind_some, typed, Json.text?,
    Option.some.injEq]

/-- An element asks for a tool under its id, or its block asks for none. -/
theorem toolUse_cases
    {value : Json} {block : Block} (read : ofJson value = .ok block) :
    (∃ id, value.hasType "tool_use" = true ∧ value.get? "id" = some (.string id) ∧
      block.toolUseId? = some id) ∨
    value.hasType "tool_use" = false ∧ block.toolUseId? = none := by
  cases value with
  | object members =>
      cases readAs_of_ofJson read with
      | text typed _ => exact Or.inr ⟨hasType_of_lookup _ typed, rfl⟩
      | image typed _ _ => exact Or.inr ⟨hasType_of_lookup _ typed, rfl⟩
      | toolResult typed _ _ => exact Or.inr ⟨hasType_of_lookup _ typed, rfl⟩
      | toolUse typed identified _ =>
          exact Or.inl ⟨_, hasType_of_lookup _ typed, identified, rfl⟩
      | other unknown =>
          refine Or.inr ⟨decide_eq_false ?_, rfl⟩
          intro typed
          have isUse : kind members = "tool_use" := congrArg (·.getD "") typed
          rw [isUse] at unknown
          exact unknown (by decide)
  | _ => cases read

theorem toolUseIds_of_ofItems
    (items : List Json) :
    ∀ {blocks : List Block}, ofItems items = .ok blocks →
      (items.filter (·.hasType "tool_use")).map (·.get? "id") =
        (blocks.filterMap toolUseId?).map fun id => some (.string id) := by
  induction items with
  | nil =>
      intro blocks read
      cases read
      rfl
  | cons item rest inductionHypothesis =>
      intro blocks read
      obtain ⟨block, head, others⟩ := exists_of_bind_eq_ok read
      obtain ⟨later, tail, joined⟩ := exists_of_bind_eq_ok others
      cases joined
      have same := inductionHypothesis tail
      rcases toolUse_cases head with ⟨id, isUse, identified, used⟩ | ⟨isOther, unused⟩
      · rw [List.filter_cons_of_pos isUse, List.filterMap_cons_some used, List.map_cons,
          List.map_cons, identified, same]
      · rw [List.filter_cons_of_neg (ne_true_of_eq_false isOther),
          List.filterMap_cons_none unused, same]

theorem encode_toolResult (id : String) (content : List Block) (isError : Bool) :
    (encode (.toolResult id content isError)).hasType "tool_result" = true ∧
      (encode (.toolResult id content isError)).get? "tool_use_id" = some (.string id) := by
  cases isError
  · exact ⟨rfl, rfl⟩
  · exact ⟨rfl, rfl⟩

end Block

namespace Turn

variable {results reply : Turn}

theorem Answers.hasType_encode (answers : results.Answers reply) :
    ∀ result ∈ results.content.map Block.encode, result.hasType "tool_result" = true := by
  intro result member
  obtain ⟨block, isResult, rfl⟩ := List.mem_map.mp member
  obtain ⟨id, content, isError, rfl⟩ := answers.onlyResults block isResult
  exact (Block.encode_toolResult id content isError).1

theorem Answers.toolUseIds_encode (answers : results.Answers reply) :
    (results.content.map Block.encode).map (·.get? "tool_use_id") =
      reply.toolUseIds.map fun id => some (.string id) := by
  rw [← answers.sameIds]
  have onlyResults := answers.onlyResults
  generalize results.content = blocks at onlyResults
  induction blocks with
  | nil => rfl
  | cons block rest inductionHypothesis =>
      obtain ⟨id, content, isError, rfl⟩ := onlyResults block List.mem_cons_self
      have later := inductionHypothesis fun other isOther =>
        onlyResults other (List.mem_cons_of_mem _ isOther)
      rw [List.map_cons, List.map_cons, later, (Block.encode_toolResult id content isError).2]
      rfl

end Turn

namespace Client

variable {numbers : Json.NumberReading}

theorem exists_of_interpret
    {response : HttpResponse} {reply : Turn}
    (interpreted : interpret numbers response = .ok reply) :
    ∃ blocks, Response.read numbers response.text = .ok blocks ∧ reply = .assistant blocks := by
  unfold interpret at interpreted
  split at interpreted
  · split at interpreted
    · rename_i blocks read
      cases interpreted
      exact ⟨blocks, read, rfl⟩
    · cases interpreted
  · cases interpreted

/-- The messages that follow a response whose content had these elements and whose tool uses gave
these results. -/
def messagesAfter (items results : List Json) : List Json :=
  [.object [("content", .array (items.map Block.normalForm)), ("role", .string "assistant")],
    .object [("content", .array results), ("role", .string "user")]]

/-- Results that answer, in order, the elements that ask for a tool. -/
structure AnswersItems (results items : List Json) : Prop where
  onlyResults : ∀ result ∈ results, result.hasType "tool_result" = true
  sameIds : results.map (·.get? "tool_use_id") =
    (items.filter (·.hasType "tool_use")).map (·.get? "id")

theorem messages_of_answered
    (messages : List Turn) {items : List Json} {results blocks : List Block}
    (read : Block.ofItems items = .ok blocks)
    (answers : (Turn.user results).Answers (.assistant blocks)) :
    (messages ++ [Turn.assistant blocks, Turn.user results]).map Turn.encode =
        messages.map Turn.encode ++ messagesAfter items (results.map Block.encode) ∧
      AnswersItems (results.map Block.encode) items := by
  constructor
  · rw [List.map_append, messagesAfter, ← Block.normalItems_eq_map,
      ← Block.encodeAll_of_ofItems items read, ← Block.encodeAll_eq_map]
    rfl
  · constructor
    · exact answers.hasType_encode
    · rw [Block.toolUseIds_of_ofItems items read]
      exact answers.toolUseIds_encode

variable {σ ν : Type} {agent : Agent σ (ν × List Exchange)} {transport : Transport ν}
variable {client : Client} {runId task : String} {computer : σ} {state : ν}
variable {result : Except Failure Report} {final : Agent.Progress σ (ν × List Exchange)}

/-- The messages of each request of a run are those of the request before it, then the content of
the response to that in its normal form as the assistant's, and then the user's results of exactly
its tool uses. No request has betas in its body. It is so whatever carries the requests and however
numerals are read: the elements of a response are the values that its text has by that reading. -/
theorem conversation_of_execute
    (isClient : agent.model = Client.model numbers transport.remembering client)
    (ran : agent.execute runId task computer (state, []) = (result, final)) :
    (∀ exchange ∈ final.model.2, exchange.request.body.get? "betas" = none) ∧
    ∀ (index : Nat) (first second : Exchange) (response : HttpResponse),
      final.model.2[index]? = some first →
      final.model.2[index + 1]? = some second →
      first.received = .ok response →
      Response.IsObject response.text →
      ∃ before items results,
        Response.elements? numbers response.text = some items ∧
        (∀ value, Json.parse? numbers response.text = some value →
          value.get? "content" = some (.array items)) ∧
        first.request.body.get? "messages" = some (.array before) ∧
        second.request.body.get? "messages" =
          some (.array (before ++ messagesAfter items results)) ∧
        AnswersItems results items := by
  obtain ⟨history, spoken⟩ := spoken_of_execute isClient ran
  constructor
  · intro exchange member
    obtain ⟨messages, body⟩ := spoken.body exchange member
    rw [body]
    exact Request.betas_encode _
  · intro index first second response found next arrived isObject
    obtain ⟨messages, reply, results, sent, received, answers, sentNext⟩ :=
      spoken.consecutive found next
    rw [arrived] at received
    obtain ⟨blocks, read, rfl⟩ := exists_of_interpret received
    rcases Response.elements_of_read isObject read with rfl | ⟨items, areItems, reads⟩
    · -- A reply without blocks asks for no tool, and nothing is sent after it.
      have noResults := List.map_eq_nil_iff.mp (List.map_eq_nil_iff.mp answers.toolUseIds_encode)
      exact absurd noResults answers.nonempty
    · obtain ⟨followed, answersItems⟩ := messages_of_answered messages reads answers
      refine ⟨messages.map Turn.encode, items, results.map Block.encode, areItems, ?_, ?_, ?_,
        answersItems⟩
      · intro value parsed
        exact Response.get_content_of_parse read areItems parsed
      · rw [sent]
        exact Request.messages_encode _
      · rw [sentNext, ← followed]
        exact Request.messages_encode _

/-- A response that states the wrong role, uses the tool twice under one id with inputs that are no
actions, and has a block between the uses that is not interpreted. -/
def rehearsedBody : String :=
  "\x7b\"role\":\"user\",\"content\":[" ++
  "\x7b\"type\":\"tool_use\",\"id\":\"a\",\"name\":\"n\"\x7d," ++
  "\x7b\"type\":\"x\",\"id\":\"b\"\x7d," ++
  "\x7b\"type\":\"tool_use\",\"id\":\"a\",\"name\":\"n\"\x7d]\x7d"

def rehearsedClient : Client where
  config :=
    { apiBase := "http://[::1]/v1", apiKey := "key", apiVersion := "2023-06-01",
      timeoutMs := none }
  hasKey := by decide

/-- The server gives the response once. What it says after that is no response. -/
def rehearsedServer : Rehearsal.Exchanges :=
  .ofResponses [⟨200, rehearsedBody⟩]

def rehearsedAgent : Agent Rehearsal.Screens (Rehearsal.Exchanges × List Exchange) where
  computer := Rehearsal.computer ⟨1280, 800⟩
  model := Client.model NumberText.value? Rehearsal.server.remembering rehearsedClient
  config := Agent.Config.ofEnvironment fun _ => none
  cancellation := .never

def rehearsed : Except Failure Report ×
    Agent.Progress Rehearsal.Screens (Rehearsal.Exchanges × List Exchange) :=
  rehearsedAgent.execute "run" "task" ⟨[], [], 0⟩ (rehearsedServer, [])

/-- The ids that members of values have as texts. -/
def textsOf (key : String) (values : List Json) : List (Option String) :=
  (values.map (·.get? key)).map (·.bind Json.text?)

theorem rehearsedBody_ids :
    (Response.elements? NumberText.value? rehearsedBody).map (fun items =>
      textsOf "id" (items.filter (·.hasType "tool_use"))) = some [some "a", some "a"] := by
  decide +kernel

theorem rehearsed_received :
    rehearsed.2.model.2.map (·.received.toOption) =
      [some ⟨200, rehearsedBody⟩, some ⟨500, "script exhausted"⟩] := by
  decide +kernel

/-- The second request of the rehearsal has one more turn of each side, and two results. -/
theorem conversation_of_rehearsed :
    ∃ first second before items results,
      rehearsed.2.model.2 = [first, second] ∧
      first.request.body.get? "messages" = some (.array before) ∧
      second.request.body.get? "messages" =
        some (.array (before ++ messagesAfter items results)) ∧
      textsOf "tool_use_id" results = [some "a", some "a"] ∧
      second.request.body.get? "betas" = none := by
  obtain ⟨first, _, areTwo, received, others⟩ := List.map_eq_cons_iff.mp rehearsed_received
  obtain ⟨second, _, rfl, _, ends⟩ := List.map_eq_cons_iff.mp others
  obtain rfl := List.map_eq_nil_iff.mp ends
  obtain ⟨elements, areElements, ids⟩ := Option.map_eq_some_iff.mp rehearsedBody_ids
  have ran : rehearsedAgent.execute "run" "task" ⟨[], [], 0⟩ (rehearsedServer, []) =
      (rehearsed.1, rehearsed.2) := rfl
  have isClient : rehearsedAgent.model =
      Client.model NumberText.value? Rehearsal.server.remembering rehearsedClient := rfl
  have arrived : first.received = .ok ⟨200, rehearsedBody⟩ := by
    cases answer : first.received with
    | ok response =>
        rw [answer] at received
        exact congrArg Except.ok (Option.some.inj received)
    | error reason =>
        rw [answer] at received
        cases received
  obtain ⟨noBetas, consecutive⟩ := conversation_of_execute isClient ran
  rw [areTwo] at consecutive noBetas
  obtain ⟨before, items, results, areItems, _, sent, sentNext, answers⟩ :=
    consecutive 0 first second _ rfl rfl arrived (Response.isObject_of_elements areElements)
  refine ⟨first, second, before, items, results, areTwo, sent, sentNext, ?_, ?_⟩
  · rw [areElements] at areItems
    cases areItems
    rw [textsOf, answers.sameIds]
    exact ids
  · exact noBetas second (List.mem_cons_of_mem _ List.mem_cons_self)

end Client

end DesktopAgent
